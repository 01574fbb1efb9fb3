import Mathlib.Data.List.Nodup
import Mathlib.Data.List.Pairwise
import Mathlib.Data.List.Perm.Basic
import NatSpec.Proofs.Json.Changes
import NatSpec.Proofs.Json.Records

set_option autoImplicit false

namespace NatSpec.Json

variable {α : Type} {shape : Shape α} {fields : List (String × Change)}

def Updates (field : Member α) (update : α → α) : Prop :=
  ∃ s after, field.update s = .ok (update, after)

def Apart (field other : Member α) : Prop :=
  ∀ f g, Updates field f → Updates other g → ∀ record, f (g record) = g (f record)

def Fits (listed : List (Member α)) (fields : List (String × Change)) : Prop :=
  List.Forall₂ (fun field named => field.name = named.1 ∧ Ignores field.update named.2)
    listed fields

structure Suits (shape : Shape α) (fields : List (String × Change)) : Prop where
  fits : Fits shape.fields fields
  distinct : (shape.fields.map Member.name).Nodup
  apart : shape.fields.Pairwise Apart

section fields

variable {listed : List (Member α)} {field other : Member α} {name : String} {change : Change}

theorem fits_names (fits : Fits listed fields) : fields.map Prod.fst = listed.map Member.name := by
  induction fits with
  | nil => rfl
  | cons here _ ih => rw [List.map_cons, List.map_cons, ih, here.1]

theorem fits_field (fits : Fits listed fields) (known : field ∈ listed) :
    ∃ change, Ignores field.update change := by
  induction fits with
  | nil => cases known
  | cons here _ ih =>
    rcases List.mem_cons.mp known with rfl | later
    · exact ⟨_, here.2⟩
    · exact ih later

theorem fits_change (fits : Fits listed fields) (known : (name, change) ∈ fields) :
    ∃ field ∈ listed, field.name = name ∧ Ignores field.update change := by
  induction fits with
  | nil => cases known
  | cons here _ ih =>
    rcases List.mem_cons.mp known with rfl | later
    · exact ⟨_, List.mem_cons_self .., here⟩
    · obtain ⟨field, inLater, ignores⟩ := ih later
      exact ⟨field, List.mem_cons_of_mem _ inLater, ignores⟩

theorem field_known (found : shape.field? name = some field) :
    field ∈ shape.fields ∧ field.name = name :=
  ⟨List.mem_of_find?_eq_some found, by simpa using List.find?_some found⟩

theorem field_unknown (unknown : name ∉ shape.fields.map Member.name) :
    shape.field? name = none := by
  rw [Shape.field?, List.find?_eq_none]
  intro field listed same
  simp only [decide_eq_true_eq] at same
  exact unknown (same ▸ List.mem_map_of_mem listed)

theorem field_unique (suits : Suits shape fields) (known : field ∈ shape.fields)
    (known' : other ∈ shape.fields) (same : field.name = other.name) : field = other :=
  List.inj_on_of_nodup_map suits.distinct known known' same

instance apart_symmetric : Std.Symm (@Apart α) where
  symm _ _ apart f g updates updates' record := (apart g f updates' updates record).symm

theorem fields_apart (suits : Suits shape fields) (known : field ∈ shape.fields)
    (known' : other ∈ shape.fields) (different : field.name ≠ other.name) : Apart field other :=
  suits.apart.forall known known' fun same => different (congrArg Member.name same)

end fields

abbrev Effect (α : Type) := Option (String × (α → α))

inductive Yields (gives : Reader (α → α) → Form → (α → α) → Prop) (shape : Shape α) :
    List Char × Form → Effect α → Prop
  | known {key text : List Char} {form : Form} {field : Member α} {update : α → α} :
      Decodes key text → shape.field? (.ofList text) = some field →
      gives field.update form update →
      Yields gives shape (key, form) (some (.ofList text, update))
  | unknown {key text : List Char} {form : Form} : Decodes key text →
      shape.field? (.ofList text) = none → Yields gives shape (key, form) none

theorem decodes_unique {spelling text other : List Char} (one : Decodes spelling text)
    (two : Decodes spelling other) : text = other :=
  (string_body_unique one two).1

theorem gives_means (suits : Suits shape fields) {field : Member α} {form : Form} {update : α → α}
    (known : field ∈ shape.fields) (gives : Gives field.update form update) :
    Means field.update form update := by
  obtain ⟨change, ignores⟩ := fits_field suits.fits known
  exact ignores form form update (.inl rfl) gives

theorem yields_kept (suits : Suits shape fields) {member : List Char × Form} {effect : Effect α}
    (yields : Yields Gives shape member effect) : Yields Means shape member effect := by
  cases yields with
  | known decodes found gives =>
    exact .known decodes found (gives_means suits (field_known found).1 gives)
  | unknown decodes absent => exact .unknown decodes absent

section members

def entered (state : List String × α) : Effect α → List String × α
  | none => state
  | some (name, update) => (name :: state.1, update state.2)

def Fresh (seen : List String) : Effect α → Prop
  | none => True
  | some (name, _) => name ∉ seen

def known (effects : List (Effect α)) : List (String × (α → α)) := effects.filterMap id

def applied (updates : List (String × (α → α))) (record : α) : α :=
  updates.foldl (fun record update => update.2 record) record

theorem entered_all (effects : List (Effect α)) (seen : List String) (record : α) :
    effects.foldl entered (seen, record) =
      (((known effects).map Prod.fst).reverse ++ seen, applied (known effects) record) := by
  induction effects generalizing seen record with
  | nil => rfl
  | cons effect effects ih =>
    rw [List.foldl_cons]
    cases effect with
    | none => exact ih seen record
    | some update =>
      rw [entered, ih]
      simp [known, applied]

variable {first : Bool} {s rest : List Char} {key : List Char} {form : Form}
  {members : List (List Char × Form)}

theorem next_key_starts (parts : Parts (Named Takes) '\x7d' first s ((key, form) :: members) rest) :
    ∃ after value u shorter colonShorter,
      Shape.nextKey first s = .ok (some ⟨key ++ '"' :: after, shorter⟩) ∧ Quotable key ∧
        Shape.colon after = .ok ⟨value, colonShorter⟩ ∧ Starts value form u ∧
        Parts (Named Takes) '\x7d' false u members rest := by
  cases parts with
  | first blanks named later =>
    obtain ⟨quotable, rfl, colon, further, takes⟩ := named
    have starts : Starts _ form _ := ⟨⟨_, further, takes⟩, parts_ended later rfl⟩
    exact ⟨_, _, _, _, _, Shape.next_key_first_found (skip_blank_blanks blanks rfl), quotable,
      Shape.colon_found (skip_blank_blanks colon rfl), starts, later⟩
  | later comma blanks named later =>
    obtain ⟨quotable, rfl, colon, further, takes⟩ := named
    have starts : Starts _ form _ := ⟨⟨_, further, takes⟩, parts_ended later rfl⟩
    obtain ⟨shorter, next⟩ := Shape.next_key_later_found (skip_blank_blanks comma rfl)
      (skip_blank_blanks blanks rfl)
    exact ⟨_, _, _, _, _, next, quotable, Shape.colon_found (skip_blank_blanks colon rfl), starts,
      later⟩

theorem next_key_closed (parts : Parts (Named Takes) '\x7d' first s [] rest) :
    Shape.nextKey first s = .ok none ∧ ∃ shorter, Shape.endObject s = .ok ⟨rest, shorter⟩ := by
  cases parts with
  | closed closed =>
    have found := skip_blank_blanks closed rfl
    exact ⟨Shape.next_key_closed_found first found, _, Shape.end_object_found found⟩

theorem member_meant {effect : Effect α} {text after value u : List Char} {colonShorter}
    (seen : List String) (record : α) (yields : Yields Means shape (key, form) effect)
    (decodes : Decodes key text) (fresh : Fresh seen effect)
    (colon : Shape.colon after = .ok ⟨value, colonShorter⟩) (starts : Starts value form u) :
    Leaves (shape.member seen (.ofList text) record after) (entered (seen, record) effect) u := by
  cases yields with
  | known decodes' found means =>
    cases decodes_unique decodes decodes'
    exact member_leaves seen record found fresh colon (means value u starts)
  | unknown decodes' absent =>
    cases decodes_unique decodes decodes'
    have skipped := skip_value_starts starts
    refine ⟨Nat.lt_of_le_of_lt (length_skipValue skipped) colonShorter, ?_⟩
    unfold Shape.member
    rw [absent]
    simp only [colon]
    split
    · rename_i halted
      cases skipped.symm.trans halted
    · rename_i passed
      cases skipped.symm.trans passed
      rfl

theorem member_given {text after value u : List Char} {seen record colonShorter result}
    (decodes : Decodes key text) (colon : Shape.colon after = .ok ⟨value, colonShorter⟩)
    (starts : Starts value form u)
    (read : shape.member seen (.ofList text) record after = .ok result) :
    ∃ effect, Yields Gives shape (key, form) effect ∧ Fresh seen effect := by
  unfold Shape.member at read
  split at read
  · rename_i field found
    split at read
    · cases read
    · rename_i fresh
      simp only [colon] at read
      split at read
      · cases read
      · rename_i update tail given
        exact ⟨some (.ofList text, update), .known decodes found ⟨value, u, tail, starts, given⟩,
          fresh⟩
  · rename_i absent
    exact ⟨none, .unknown decodes absent, trivial⟩

theorem entered_distinct {seen : List String} {effect : Effect α} (record : α)
    (fresh : Fresh seen effect) (distinct : seen.Nodup) :
    (entered (seen, record) effect).1.Nodup := by
  cases effect with
  | none => exact distinct
  | some update => exact List.nodup_cons.mpr ⟨fresh, distinct⟩

theorem fresh_of_distinct {seen : List String} {record : α} {effect : Effect α}
    {effects : List (Effect α)}
    (distinct : (effects.foldl entered (entered (seen, record) effect)).1.Nodup) :
    Fresh seen effect := by
  cases effect with
  | none => trivial
  | some update =>
    rw [entered, entered_all] at distinct
    exact (List.nodup_cons.mp (List.nodup_append.mp distinct).2.1).1

theorem members_given (suits : Suits shape fields) {seen seen' : List String} {record record' : α}
    {after : List Char} (parts : Parts (Named Takes) '\x7d' first s members rest)
    (read : shape.members first seen record s = .ok ((seen', record'), after)) :
    ∃ effects, List.Forall₂ (Yields Gives shape) members effects ∧
      (seen', record') = effects.foldl entered (seen, record) ∧ (seen.Nodup → seen'.Nodup) := by
  induction members generalizing first s seen record with
  | nil =>
    rw [Shape.members, (next_key_closed parts).1] at read
    cases read
    exact ⟨[], .nil, rfl, id⟩
  | cons member members ih =>
    obtain ⟨key, form⟩ := member
    obtain ⟨_, value, u, _, _, next, quotable, colon, starts, later⟩ := next_key_starts parts
    rw [Shape.members, next] at read
    simp only at read
    split at read
    · cases read
    · rename_i decoded
      obtain ⟨decodes, rfl⟩ := decodes_of_read quotable decoded
      split at read
      · cases read
      · rename_i seen₁ record₁ _ _ stepped
        obtain ⟨effect, yields, fresh⟩ := member_given decodes colon starts stepped
        obtain ⟨_, meant⟩ := member_meant seen record (yields_kept suits yields) decodes fresh colon
          starts
        obtain ⟨state, tail⟩ := Prod.mk.inj (Except.ok.inj (stepped.symm.trans meant))
        cases tail
        obtain ⟨effects, yieldsLater, final, distinct⟩ := ih later read
        refine ⟨effect :: effects, .cons yields yieldsLater, ?_, fun before => distinct ?_⟩
        · rw [List.foldl_cons, ← state, final]
        · have here := entered_distinct record fresh before
          rwa [← state] at here

theorem members_meant {effects : List (Effect α)}
    (means : List.Forall₂ (Yields Means shape) members effects) {seen : List String} {record : α}
    (parts : Parts (Named Takes) '\x7d' first s members rest)
    (distinct : (effects.foldl entered (seen, record)).1.Nodup) :
    ∃ after shorter,
      shape.members first seen record s = .ok (effects.foldl entered (seen, record), after) ∧
        Shape.endObject after = .ok ⟨rest, shorter⟩ := by
  induction means generalizing first s seen record with
  | nil =>
    obtain ⟨next, shorter, ended⟩ := next_key_closed parts
    refine ⟨s, shorter, ?_, ended⟩
    rw [Shape.members, next]
    rfl
  | @cons member effect _ _ yields _ ih =>
    obtain ⟨key, form⟩ := member
    obtain ⟨_, value, u, _, _, next, _, colon, starts, later⟩ := next_key_starts parts
    have fresh := fresh_of_distinct distinct
    obtain ⟨text, decodes⟩ : ∃ text, Decodes key text := by
      cases yields with
      | known decodes => exact ⟨_, decodes⟩
      | unknown decodes => exact ⟨_, decodes⟩
    have stepped := member_meant seen record yields decodes fresh colon starts
    obtain ⟨after, shorter, read, ended⟩ := ih later distinct
    refine ⟨after, shorter, ?_, ended⟩
    refine (members_next next ?_ stepped).trans read
    rw [String.toList_ofList]
    exact decodes_read decodes _

end members

section objects

structure Completes (shape : Shape α) (updates : List (String × (α → α))) (value : α) : Prop where
  distinct : (updates.map Prod.fst).Nodup
  complete : ∀ field ∈ shape.fields, field.required = true → field.name ∈ updates.map Prod.fst
  value : applied updates shape.empty = value

variable {s rest : List Char} {members : List (List Char × Form)} {value : α}

theorem complete_of_missing {names : List String} (nothing : shape.missing? names = none) :
    ∀ field ∈ shape.fields, field.required = true → field.name ∈ names := by
  rw [Shape.missing?, Option.map_eq_none_iff, List.find?_eq_none] at nothing
  intro field listed required
  simpa [required] using nothing field listed

theorem object_given (suits : Suits shape fields) {after : Rest s}
    (parts : Parts (Named Takes) '\x7d' true s members rest)
    (read : shape.object s = .ok (value, after)) :
    ∃ effects, List.Forall₂ (Yields Gives shape) members effects ∧
      Completes shape (known effects) value := by
  unfold Shape.object at read
  split at read
  · cases read
  · rename_i seen record _ found
    obtain ⟨effects, gives, final, distinct⟩ := members_given suits parts found
    rw [entered_all, List.append_nil] at final
    obtain ⟨rfl, rfl⟩ := Prod.mk.inj final
    split at read
    · cases read
    · rename_i nothing
      split at read
      · cases read
      · cases read
        refine ⟨effects, gives, List.nodup_reverse.mp (distinct .nil), ?_, rfl⟩
        exact fun field listed required =>
          List.mem_reverse.mp (complete_of_missing nothing field listed required)

theorem object_meant {effects : List (Effect α)}
    (means : List.Forall₂ (Yields Means shape) members effects)
    (completes : Completes shape (known effects) value)
    (parts : Parts (Named Takes) '\x7d' true s members rest) :
    Leaves (shape.object s) value rest := by
  have distinct : (effects.foldl entered ([], shape.empty)).1.Nodup := by
    rw [entered_all, List.append_nil]
    exact List.nodup_reverse.mpr completes.distinct
  obtain ⟨after, shorter, found, ended⟩ := members_meant means parts distinct
  rw [entered_all, List.append_nil, completes.value] at found
  have nothing : shape.missing? ((known effects).map Prod.fst).reverse = none :=
    missing_none fun field listed required =>
      List.mem_reverse.mpr (completes.complete field listed required)
  unfold Shape.object
  split
  · rename_i halted
    cases found.symm.trans halted
  · rename_i read
    cases found.symm.trans read
    rw [nothing]
    simp only [ended]
    exact ⟨_, rfl⟩

theorem known_updates {effects : List (Effect α)}
    (gives : List.Forall₂ (Yields Gives shape) members effects) {update : String × (α → α)}
    (listed : update ∈ known effects) :
    ∃ field ∈ shape.fields, field.name = update.1 ∧ Updates field update.2 := by
  induction gives with
  | nil => cases listed
  | cons yields _ ih =>
    cases yields with
    | known _ found gives =>
      rcases List.mem_cons.mp listed with rfl | later
      · obtain ⟨listed, named⟩ := field_known found
        obtain ⟨s, _, after, _, read⟩ := gives
        exact ⟨_, listed, named, s, after, read⟩
      · exact ih later
    | unknown => exact ih listed

theorem applied_perm (suits : Suits shape fields) {effects : List (Effect α)}
    {updates : List (String × (α → α))} (gives : List.Forall₂ (Yields Gives shape) members effects)
    (distinct : ((known effects).map Prod.fst).Nodup) (perm : (known effects).Perm updates)
    (record : α) : applied (known effects) record = applied updates record := by
  apply perm.foldl_eq'
  intro update listed other listed' record
  obtain ⟨field, inFields, named, updates⟩ := known_updates gives listed
  obtain ⟨field', inFields', named', updates'⟩ := known_updates gives listed'
  by_cases same : update.1 = other.1
  · rw [List.inj_on_of_nodup_map distinct listed listed' same]
  · have different : field.name ≠ field'.name := by rwa [named, named']
    exact (fields_apart suits inFields inFields' different _ _ updates updates' record).symm

theorem completes_perm (suits : Suits shape fields) {effects : List (Effect α)}
    {updates : List (String × (α → α))} (gives : List.Forall₂ (Yields Gives shape) members effects)
    (perm : (known effects).Perm updates) (completes : Completes shape (known effects) value) :
    Completes shape updates value where
  distinct := (perm.map Prod.fst).nodup_iff.mp completes.distinct
  complete field listed required :=
    (perm.map Prod.fst).mem_iff.mp (completes.complete field listed required)
  value := by rw [← applied_perm suits gives completes.distinct perm, completes.value]

end objects

end NatSpec.Json
