import NatSpec.Proofs.Json.Effects

set_option autoImplicit false

namespace NatSpec.Json

inductive MemberChange (fields : List (String × Change)) :
    List Char × Form → List Char × Form → Prop
  | kept {member : List Char × Form} : MemberChange fields member member
  | changed {key text : List Char} {form other : Form} {change : Change} : Decodes key text →
      (String.ofList text, change) ∈ fields → change form other →
      MemberChange fields (key, form) (key, other)

def Unknown (fields : List (String × Change)) (member : List Char × Form) : Prop :=
  ∃ text, Decodes member.1 text ∧ String.ofList text ∉ fields.map Prod.fst

inductive ElementsChange : List Change → List Form → List Form → Prop
  | none {changes : List Change} : ElementsChange changes [] []
  | next {change : Change} {changes : List Change} {item other : Form} {items others : List Form} :
      Perhaps change item other → ElementsChange changes items others →
      ElementsChange (change :: changes) (item :: items) (other :: others)

inductive Change.record (fields : List (String × Change)) : Form → Form → Prop
  | members {members kept added others : List (List Char × Form)} :
      List.Forall₂ (MemberChange fields) members kept →
      (∀ member ∈ added, Unknown fields member) → others.Perm (kept ++ added) →
      Change.record fields (.object members) (.object others)
  | elements {items others : List Form} : ElementsChange (fields.map Prod.snd) items others →
      Change.record fields (.array items) (.array others)

theorem record_filled {fields : List (String × Change)} {form other : Form}
    (changed : Change.record fields form other) : form ≠ .null ∧ other ≠ .null := by
  cases changed <;> exact ⟨nofun, nofun⟩

variable {α : Type} {shape : Shape α} {fields : List (String × Change)}

section members

variable {members : List (List Char × Form)} {value : α}

theorem yields_changed (suits : Suits shape fields) (member other : List Char × Form)
    (effect : Effect α) (changed : MemberChange fields member other)
    (yields : Yields Gives shape member effect) : Yields Means shape other effect := by
  cases changed with
  | kept => exact yields_kept suits yields
  | changed decodes listed change =>
    obtain ⟨field, known, named, ignores⟩ := fits_change suits.fits listed
    cases yields with
    | known decodes' found gives =>
      cases decodes_unique decodes decodes'
      obtain ⟨known', named'⟩ := field_known found
      cases field_unique suits known known' (named.trans named'.symm)
      exact .known decodes found (ignores _ _ _ (.inr change) gives)
    | unknown decodes' absent =>
      cases decodes_unique decodes decodes'
      rw [Shape.field?, List.find?_eq_none] at absent
      exact absurd (decide_eq_true named) (absent field known)

theorem yields_unknown (suits : Suits shape fields) {member : List Char × Form}
    (unknown : Unknown fields member) : Yields Means shape member none := by
  obtain ⟨text, decodes, absent⟩ := unknown
  rw [fits_names suits.fits] at absent
  exact .unknown decodes (field_unknown absent)

theorem known_append_unknown (effects : List (Effect α)) (added : List (List Char × Form)) :
    known (effects ++ added.map fun _ => none) = known effects := by
  simp [known]

theorem members_changed (suits : Suits shape fields) {effects : List (Effect α)}
    {kept added others : List (List Char × Form)}
    (gives : List.Forall₂ (Yields Gives shape) members effects)
    (completes : Completes shape (known effects) value)
    (changed : List.Forall₂ (MemberChange fields) members kept)
    (unknown : ∀ member ∈ added, Unknown fields member) (perm : others.Perm (kept ++ added)) :
    ∃ effects, List.Forall₂ (Yields Means shape) others effects ∧
      Completes shape (known effects) value := by
  have keptMean : List.Forall₂ (Yields Means shape) kept effects :=
    forall₂_across (yields_changed suits) changed gives
  have addedMean : List.Forall₂ (Yields Means shape) added (added.map fun _ => none) := by
    rw [List.forall₂_map_right_iff, List.forall₂_same]
    exact fun member listed => yields_unknown suits (unknown member listed)
  obtain ⟨effects', means, sorted⟩ :=
    List.perm_comp_forall₂ perm (List.rel_append keptMean addedMean)
  have same := sorted.filterMap id
  rw [← known, ← known, known_append_unknown] at same
  exact ⟨effects', means, completes_perm suits gives same.symm completes⟩

end members

section arrays

inductive Lined (gives : Reader (α → α) → Form → (α → α) → Prop) :
    List (Member α) → List Form → List (α → α) → Prop
  | left {listed : List (Member α)} : (∀ field ∈ listed, field.required = false) →
      Lined gives listed [] []
  | next {field : Member α} {listed : List (Member α)} {item : Form} {items : List Form}
      {update : α → α} {updates : List (α → α)} : gives field.update item update →
      Lined gives listed items updates →
      Lined gives (field :: listed) (item :: items) (update :: updates)

def filled (updates : List (α → α)) (record : α) : α :=
  updates.foldl (fun record update => update record) record

variable {s rest : List Char} {listed : List (Member α)} {items others : List Form} {value : α}
  {updates : List (α → α)}

theorem end_list_closed {first : Bool} {result : Rest s}
    (parts : Parts Takes ']' first s items rest) (ended : Reader.endList s = .ok result) :
    items = [] := by
  cases parts with
  | closed => rfl
  | first blanks takes =>
    obtain ⟨c, tail, rfl, visible, notClosing, _⟩ := takes_begins takes
    rw [Reader.end_list_found (skip_blank_blanks blanks visible), if_neg notClosing] at ended
    split at ended
    · split at ended <;> cases ended
    · cases ended
  | later comma =>
    have found := skip_blank_blanks comma rfl
    rw [Reader.end_list_found found, if_neg (by decide), if_pos rfl] at ended
    split at ended <;> cases ended

theorem elements_given (ignored : ∀ field ∈ listed, ∃ change, Ignores field.update change)
    {count : Nat} {record : α} {after} {final : Rest after} {bound : after.length ≤ s.length}
    (parts : Parts Takes ']' (count = 0) s items rest)
    (read : shape.elements listed count record s = .ok (value, ⟨after, bound⟩))
    (ended : Reader.endList after = .ok final) :
    ∃ updates, Lined Gives listed items updates ∧
      value = filled updates record := by
  induction listed generalizing count record s items with
  | nil =>
    cases read
    cases end_list_closed parts ended
    exact ⟨[], .left nofun, rfl⟩
  | cons field listed ih =>
    have later := fun other known => ignored other (List.mem_cons_of_mem field known)
    cases items with
    | nil =>
      rw [Shape.elements, (next_item_closed parts).1] at read
      simp only at read
      split at read
      · cases read
      · rename_i optional
        obtain ⟨updates, lined, rfl⟩ := ih later parts read
        cases lined with
        | left free =>
          exact ⟨[], .left (List.forall_mem_cons.mpr ⟨Bool.eq_false_iff.mpr optional, free⟩), rfl⟩
    | cons item items =>
      obtain ⟨start, u, _, next, starts, notFirst⟩ := next_item_starts parts
      have further : Parts Takes ']' (count + 1 = 0) u items rest := notFirst
      obtain ⟨change, ignores⟩ := ignored field (List.mem_cons_self ..)
      rw [Shape.elements, next] at read
      simp only at read
      split at read
      · cases read
      · rename_i update tail _ given
        obtain ⟨_, meant⟩ := ignores_leaves ignores starts given
        cases given.symm.trans meant
        split at read
        · cases read
        · rename_i found
          cases read
          obtain ⟨updates, lined, rfl⟩ := ih later further found
          exact ⟨update :: updates, .next ⟨start, u, _, starts, given⟩ lined, rfl⟩

theorem elements_meant (lined : Lined Means listed items updates)
    {count : Nat} (record : α) (parts : Parts Takes ']' (count = 0) s items rest) :
    ∃ after bound shorter, shape.elements listed count record s =
      .ok (filled updates record, ⟨after, bound⟩) ∧
        Reader.endList after = .ok ⟨rest, shorter⟩ := by
  induction lined generalizing count record s with
  | @left listed free =>
    obtain ⟨next, shorter, ended⟩ := next_item_closed parts
    refine ⟨s, Nat.le_refl _, shorter, ?_, ended⟩
    induction listed with
    | nil => rfl
    | cons field listed ih =>
      obtain ⟨optional, later⟩ := List.forall_mem_cons.mp free
      rw [Shape.elements, next]
      simp only [optional]
      exact ih later
  | @next field listed item items update updates means _ ih =>
    obtain ⟨start, u, bound, next, starts, notFirst⟩ := next_item_starts parts
    have further : Parts Takes ']' (count + 1 = 0) u items rest := notFirst
    obtain ⟨tailShorter, read⟩ := means start u starts
    obtain ⟨after, afterBound, shorter, found, ended⟩ := ih (update record) further
    refine ⟨after, by omega, shorter, ?_, ended⟩
    rw [Shape.elements, next]
    simp only [read, found]
    rfl

theorem array_given (suits : Suits shape fields) {after : Rest s}
    (parts : Parts Takes ']' true s items rest) (read : shape.array s = .ok (value, after)) :
    ∃ updates, Lined Gives shape.fields items updates ∧ value = filled updates shape.empty := by
  have opening : Parts Takes ']' ((0 : Nat) = 0) s items rest := parts
  unfold Shape.array at read
  split at read
  · cases read
  · rename_i elements
    split at read
    · cases read
    · rename_i ended
      cases read
      exact elements_given (fun _ => fits_field suits.fits) opening elements ended

theorem array_meant (lined : Lined Means shape.fields items updates)
    (parts : Parts Takes ']' true s items rest) :
    Leaves (shape.array s) (filled updates shape.empty) rest := by
  have opening : Parts Takes ']' ((0 : Nat) = 0) s items rest := parts
  obtain ⟨after, bound, shorter, read, ended⟩ := elements_meant lined shape.empty opening
  refine ⟨Nat.lt_of_lt_of_le shorter bound, ?_⟩
  rw [Shape.array, read]
  simp only [ended]

theorem lined_kept (ignored : ∀ field ∈ listed, ∃ change, Ignores field.update change)
    (gives : Lined Gives listed items updates) : Lined Means listed items updates := by
  induction gives with
  | left free => exact .left free
  | next given _ ih =>
    obtain ⟨change, ignores⟩ := ignored _ (List.mem_cons_self ..)
    exact .next (ignores _ _ _ (.inl rfl) given)
      (ih fun field later => ignored field (List.mem_cons_of_mem _ later))

theorem lined_changed (fits : Fits listed fields) (gives : Lined Gives listed items updates)
    (changed : ElementsChange (fields.map Prod.snd) items others) :
    Lined Means listed others updates := by
  induction gives generalizing fields others with
  | left free =>
    generalize fields.map Prod.snd = changes at changed
    cases changed
    exact .left free
  | next given _ ih =>
    cases fits with
    | cons here fits =>
      cases changed with
      | next perhaps later => exact .next (here.2 _ _ _ perhaps given) (ih fits later)

end arrays

section reader

variable {form : Form} {members : List (List Char × Form)} {items : List Form} {value : α}

theorem record_gives (suits : Suits shape fields) (gives : Gives shape.reader form value) :
    (∃ members effects, form = .object members ∧ List.Forall₂ (Yields Gives shape) members effects ∧
      Completes shape (known effects) value) ∨
    (∃ items updates, form = .array items ∧ Lined Gives shape.fields items updates ∧
      value = filled updates shape.empty) := by
  obtain ⟨s, rest, after, starts, read⟩ := gives
  obtain ⟨c, tail, found, takes, _⟩ := starts_found starts
  rw [Shape.reader_found shape found] at read
  split at read
  · rename_i brace
    subst brace
    obtain ⟨members, rfl, parts⟩ := takes_brace takes
    split at read
    · cases read
    · rename_i object
      cases read
      obtain ⟨effects, given, completes⟩ := object_given suits parts object
      exact .inl ⟨members, effects, rfl, given, completes⟩
  · split at read
    · rename_i bracket
      subst bracket
      obtain ⟨items, rfl, parts⟩ := takes_bracket takes
      split at read
      · cases read
      · rename_i array
        cases read
        obtain ⟨updates, lined, rfl⟩ := array_given suits parts array
        exact .inr ⟨items, updates, rfl, lined, rfl⟩
    · cases read

theorem object_means {effects : List (Effect α)}
    (means : List.Forall₂ (Yields Means shape) members effects)
    (completes : Completes shape (known effects) value) :
    Means shape.reader (.object members) value := by
  rintro s rest ⟨⟨t, blanks, takes⟩, _⟩
  cases takes with
  | object parts =>
    obtain ⟨shorter, read⟩ := object_meant means completes parts
    rw [Shape.reader_found shape (skip_blank_blanks blanks rfl), if_pos rfl, read]
    exact ⟨_, rfl⟩

theorem array_means {updates : List (α → α)} (lined : Lined Means shape.fields items updates) :
    Means shape.reader (.array items) (filled updates shape.empty) := by
  rintro s rest ⟨⟨t, blanks, takes⟩, _⟩
  cases takes with
  | array parts =>
    obtain ⟨shorter, read⟩ := array_meant lined parts
    rw [Shape.reader_found shape (skip_blank_blanks blanks rfl), if_neg (by decide), if_pos rfl,
      read]
    exact ⟨_, rfl⟩

theorem ignores_record (suits : Suits shape fields) : Ignores shape.reader (.record fields) := by
  intro form other value perhaps gives
  rcases record_gives suits gives with
    ⟨members, effects, rfl, given, completes⟩ | ⟨items, updates, rfl, lined, rfl⟩
  · rcases perhaps with rfl | changed
    · exact object_means (given.imp fun _ _ => yields_kept suits) completes
    · cases changed with
      | members kept unknown perm =>
        obtain ⟨effects, means, completes⟩ :=
          members_changed suits given completes kept unknown perm
        exact object_means means completes
  · rcases perhaps with rfl | changed
    · exact array_means (lined_kept (fun _ => fits_field suits.fits) lined)
    · cases changed with
      | elements changed => exact array_means (lined_changed suits.fits lined changed)

end reader

end NatSpec.Json
