import Mathlib.Data.List.Forall2
import NatSpec.Proofs.Json.Decoding
import NatSpec.Proofs.Json.FirstCharacter
import NatSpec.Proofs.Json.Values

set_option autoImplicit false

namespace NatSpec.Json

abbrev Change := Form → Form → Prop

def Change.none : Change := fun _ _ => False

def Perhaps (change : Change) (form other : Form) : Prop := other = form ∨ change form other

inductive Change.list (item : Change) : Form → Form → Prop
  | intro {items others : List Form} : List.Forall₂ (Perhaps item) items others →
      Change.list item (.array items) (.array others)

variable {α β γ : Type}

def Gives (reader : Reader α) (form : Form) (value : α) : Prop :=
  ∃ s rest after, Starts s form rest ∧ reader s = .ok (value, after)

def Means (reader : Reader α) (form : Form) (value : α) : Prop :=
  ∀ s rest, Starts s form rest → Leaves (reader s) value rest

def Ignores (reader : Reader α) (change : Change) : Prop :=
  ∀ form other value, Perhaps change form other → Gives reader form value →
    Means reader other value

theorem forall₂_across {P : α → β → Prop} {Q : α → γ → Prop} {R : β → γ → Prop}
    (across : ∀ a b c, P a b → Q a c → R b c) {as : List α} {bs : List β} {cs : List γ}
    (one : List.Forall₂ P as bs) (two : List.Forall₂ Q as cs) : List.Forall₂ R bs cs := by
  induction one generalizing cs with
  | nil =>
    cases two
    exact .nil
  | cons here _ ih =>
    cases two with
    | cons here' later => exact .cons (across _ _ _ here here') (ih later)

section scalars

variable {reader : Reader α} {change : Change} {form : Form}

theorem ignores_leaves (ignores : Ignores reader change) {s rest : List Char} {value : α}
    {after : Rest s} (starts : Starts s form rest) (read : reader s = .ok (value, after)) :
    Leaves (reader s) value rest :=
  ignores form form value (.inl rfl) ⟨s, rest, after, starts, read⟩ s rest starts

theorem map_read {f : α → β} {s : List Char} {value : β} {after : Rest s}
    (read : reader.map f s = .ok (value, after)) :
    ∃ inner, value = f inner ∧ reader s = .ok (inner, after) := by
  unfold Reader.map at read
  split at read
  · cases read
  · rename_i inner _ found
    cases read
    exact ⟨inner, rfl, found⟩

theorem map_gives {f : α → β} {value : β} (gives : Gives (reader.map f) form value) :
    ∃ inner, value = f inner ∧ Gives reader form inner := by
  obtain ⟨s, rest, after, starts, read⟩ := gives
  obtain ⟨inner, same, found⟩ := map_read read
  exact ⟨inner, same, s, rest, after, starts, found⟩

theorem ignores_map (f : α → β) (ignores : Ignores reader change) :
    Ignores (reader.map f) change := by
  intro form other value perhaps gives s rest starts
  obtain ⟨inner, rfl, given⟩ := map_gives gives
  obtain ⟨shorter, found⟩ := ignores form other inner perhaps given s rest starts
  exact ⟨shorter, by rw [Reader.map, found]⟩

theorem string_gives {value : String} (gives : Gives .string form value) :
    ∃ spelling text, form = .string spelling ∧ Decodes spelling text ∧ value = .ofList text := by
  obtain ⟨s, rest, after, starts, read⟩ := gives
  obtain ⟨c, tail, found, takes, _⟩ := starts_found starts
  rw [Reader.string_found found] at read
  split at read
  · rename_i quote
    subst quote
    obtain ⟨spelling, rfl, quotable, rfl⟩ := takes_quote takes
    unfold Reader.quoted at read
    split at read
    · cases read
    · rename_i text _ body
      cases read
      exact ⟨spelling, text, rfl, (decodes_of_read quotable body).1, rfl⟩
  · cases read

theorem string_means {spelling text : List Char} (decodes : Decodes spelling text) :
    Means .string (.string spelling) (.ofList text) := by
  rintro s rest ⟨⟨t, blanks, takes⟩, _⟩
  cases takes with
  | string _ same =>
    subst same
    rw [Reader.string_found (skip_blank_blanks blanks rfl), if_pos rfl]
    exact quoted_leaves _ (decodes_read decodes rest)

theorem ignores_string : Ignores .string .none := by
  rintro form other value (rfl | impossible) gives
  · obtain ⟨spelling, text, rfl, decodes, rfl⟩ := string_gives gives
    exact string_means decodes
  · exact impossible.elim

theorem word_given {value result : α} {letters s body : List Char} {after : Rest s} {shorter}
    (read : Reader.word value letters s body shorter = .ok (result, after)) : result = value := by
  unfold Reader.word at read
  split at read
  · cases read
  · cases read
    rfl

theorem bool_gives {value : Bool} (gives : Gives .bool form value) : form = .bool value := by
  obtain ⟨s, rest, after, starts, read⟩ := gives
  obtain ⟨c, tail, found, takes, _⟩ := starts_found starts
  rw [Reader.bool_found found] at read
  split at read
  · rename_i yes
    subst yes
    rw [word_given read]
    exact (takes_yes takes).1
  · split at read
    · rename_i no
      subst no
      rw [word_given read]
      exact (takes_no takes).1
    · cases read

theorem bool_means (value : Bool) : Means .bool (.bool value) value := by
  rintro s rest ⟨⟨t, blanks, takes⟩, _⟩
  cases takes with
  | yes =>
    have found := skip_blank_blanks blanks rfl
    rw [Reader.bool_found found]
    exact word_leaves true "rue".toList s rest (shorter_of_skipBlank found)
  | no =>
    have found := skip_blank_blanks blanks rfl
    rw [Reader.bool_found found]
    exact word_leaves false "alse".toList s rest (shorter_of_skipBlank found)

theorem ignores_bool : Ignores .bool .none := by
  rintro form other value (rfl | impossible) gives
  · rw [bool_gives gives]
    exact bool_means value
  · exact impossible.elim

end scalars

section nullable

variable {reader : Reader α} {change : Change} {form : Form}

theorem nullable_gives {value : Option α} (gives : Gives (.nullable reader) form value) :
    (form = .null ∧ value = none) ∨
      (form ≠ .null ∧ ∃ inner, value = some inner ∧ Gives reader form inner) := by
  obtain ⟨s, rest, after, starts, read⟩ := gives
  obtain ⟨c, tail, found, takes, _⟩ := starts_found starts
  rw [Reader.nullable_found reader found] at read
  split at read
  · rename_i null
    subst null
    exact .inl ⟨(takes_null takes).1, word_given read⟩
  · rename_i notNull
    refine .inr ⟨?_, map_gives ⟨s, rest, after, starts, read⟩⟩
    rintro rfl
    cases takes
    exact notNull rfl

theorem null_means (reader : Reader α) : Means (.nullable reader) .null none := by
  rintro s rest ⟨⟨t, blanks, takes⟩, _⟩
  cases takes
  have found := skip_blank_blanks blanks rfl
  rw [Reader.nullable_found reader found, if_pos rfl]
  exact word_leaves none "ull".toList s rest (shorter_of_skipBlank found)

theorem nullable_means {value : α} (notNull : form ≠ .null) (means : Means reader form value) :
    Means (.nullable reader) form (some value) := by
  intro s rest starts
  obtain ⟨c, tail, found, takes, _⟩ := starts_found starts
  obtain ⟨shorter, read⟩ := means s rest starts
  have other : c ≠ 'n' := by
    rintro rfl
    exact notNull (takes_null takes).1
  rw [Reader.nullable_found reader found, if_neg other]
  exact ⟨shorter, by rw [Reader.map, read]⟩

theorem ignores_nullable (filled : ∀ form other, change form other → form ≠ .null ∧ other ≠ .null)
    (ignores : Ignores reader change) : Ignores (.nullable reader) change := by
  intro form other value perhaps gives
  rcases nullable_gives gives with ⟨rfl, rfl⟩ | ⟨notNull, inner, rfl, given⟩
  · rcases perhaps with rfl | changed
    · exact null_means reader
    · exact absurd rfl (filled _ _ changed).1
  · have means := ignores form other inner perhaps given
    rcases perhaps with rfl | changed
    · exact nullable_means notNull means
    · exact nullable_means (filled _ _ changed).2 means

end nullable

section list

variable {item : Reader α} {change : Change} {first : Bool} {s rest : List Char} {form : Form}
  {forms : List Form}

theorem next_item_starts (parts : Parts Takes ']' first s (form :: forms) rest) :
    ∃ start u bound, Reader.nextItem first s = .ok (some ⟨start, bound⟩) ∧ Starts start form u ∧
      Parts Takes ']' false u forms rest := by
  cases parts with
  | @first _ t u _ _ _ blanks takes later =>
    have starts : Starts s form u := ⟨⟨t, blanks, takes⟩, parts_ended later rfl⟩
    obtain ⟨c, tail, found, _, notClosing⟩ := starts_found starts
    exact ⟨s, u, _, Reader.next_item_first_found found notClosing, starts, later⟩
  | @later _ t u v _ _ _ comma blanks takes later =>
    have starts : Starts t form v := ⟨⟨u, blanks, takes⟩, parts_ended later rfl⟩
    obtain ⟨c, tail, found, _, notClosing⟩ := starts_found starts
    have next := Reader.next_item_later_found (skip_blank_blanks comma rfl) found notClosing
    exact ⟨t, v, _, next, starts, later⟩

theorem next_item_closed (parts : Parts Takes ']' first s [] rest) :
    Reader.nextItem first s = .ok none ∧ ∃ shorter, Reader.endList s = .ok ⟨rest, shorter⟩ := by
  cases parts with
  | closed closed =>
    have found := skip_blank_blanks closed rfl
    exact ⟨Reader.next_item_closed_found first found, _, Reader.end_list_found found⟩

theorem items_given (ignores : Ignores item change) {read values : List α} {after : List Char}
    (parts : Parts Takes ']' first s forms rest)
    (found : item.items first read s = .ok (values, after)) :
    ∃ given, values = read.reverse ++ given ∧ List.Forall₂ (Gives item) forms given := by
  induction forms generalizing first s read with
  | nil =>
    obtain ⟨next, shorter, ended⟩ := next_item_closed parts
    rw [Reader.items, next] at found
    simp only [ended] at found
    cases found
    exact ⟨[], (List.append_nil _).symm, .nil⟩
  | cons form forms ih =>
    obtain ⟨start, u, bound, next, starts, later⟩ := next_item_starts parts
    cases here : item start with
    | error halt =>
      rw [Reader.items, next] at found
      simp only [here] at found
      cases found
    | ok result =>
      obtain ⟨value, tail⟩ := result
      rw [items_next read next (ignores_leaves ignores starts here)] at found
      obtain ⟨given, rfl, gives⟩ := ih later found
      exact ⟨value :: given, by simp, .cons ⟨start, u, tail, starts, here⟩ gives⟩

theorem items_meant {values : List α} (means : List.Forall₂ (Means item) forms values)
    (parts : Parts Takes ']' first s forms rest) (read : List α) :
    item.items first read s = .ok (read.reverse ++ values, rest) := by
  induction means generalizing first s read with
  | nil =>
    obtain ⟨next, shorter, ended⟩ := next_item_closed parts
    rw [Reader.items, next]
    simp only [ended, List.append_nil]
  | cons here _ ih =>
    obtain ⟨start, u, bound, next, starts, later⟩ := next_item_starts parts
    rw [items_next read next (here start u starts), ih later]
    simp

theorem list_gives (ignores : Ignores item change) {values : List α}
    (gives : Gives (.list item) form values) :
    ∃ forms, form = .array forms ∧ List.Forall₂ (Gives item) forms values := by
  obtain ⟨s, rest, after, starts, read⟩ := gives
  obtain ⟨c, tail, found, takes, _⟩ := starts_found starts
  rw [Reader.list_found item found] at read
  split at read
  · rename_i bracket
    subst bracket
    obtain ⟨forms, rfl, parts⟩ := takes_bracket takes
    split at read
    · cases read
    · rename_i items
      cases read
      obtain ⟨given, rfl, gives⟩ := items_given ignores parts items
      exact ⟨forms, rfl, gives⟩
  · cases read

theorem list_means {values : List α} (means : List.Forall₂ (Means item) forms values) :
    Means (.list item) (.array forms) values := by
  rintro s rest ⟨⟨t, blanks, takes⟩, _⟩
  cases takes with
  | array parts =>
    have read := items_meant means parts []
    rw [Reader.list_found item (skip_blank_blanks blanks rfl), if_pos rfl]
    split
    · rename_i halted
      cases read.symm.trans halted
    · rename_i items
      cases read.symm.trans items
      exact ⟨_, rfl⟩

theorem ignores_list (ignores : Ignores item change) :
    Ignores (.list item) (.list change) := by
  intro form other values perhaps gives
  obtain ⟨forms, rfl, given⟩ := list_gives ignores gives
  obtain ⟨others, rfl, changed⟩ : ∃ others, other = .array others ∧
      List.Forall₂ (Perhaps change) forms others := by
    rcases perhaps with rfl | changed
    · exact ⟨forms, rfl, List.forall₂_same.mpr fun _ _ => .inl rfl⟩
    · cases changed with
      | intro items => exact ⟨_, rfl, items⟩
  exact list_means (forall₂_across ignores changed given)

theorem ignores_items (ignores : Ignores item .none) : Ignores (.list item) .none := by
  rintro form other values (rfl | impossible) gives
  · exact ignores_list ignores other other values (.inl rfl) gives
  · exact impossible.elim

end list

end NatSpec.Json
