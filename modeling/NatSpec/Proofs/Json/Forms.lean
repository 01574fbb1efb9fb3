import NatSpec.Proofs.Json.Grammar

set_option autoImplicit false

namespace NatSpec.Json

inductive Form where
  | null
  | bool (value : Bool)
  | number (spelling : List Char)
  | string (spelling : List Char)
  | array (items : List Form)
  | object (members : List (List Char × Form))

inductive Quotable : List Char → Prop
  | nil : Quotable []
  | plain {c : Char} {s : List Char} : c ≠ '"' → c ≠ '\\' → 0x20 ≤ c.toNat → Quotable s →
      Quotable (c :: s)
  | short {mark : Char} {s : List Char} : (shortEscape? mark).isSome = true → Quotable s →
      Quotable ('\\' :: mark :: s)
  | code {a b c d : Char} {s : List Char} : (hexValues? [a, b, c, d]).isSome = true → Quotable s →
      Quotable ('\\' :: 'u' :: a :: b :: c :: d :: s)

def isUnescaped (c : Char) : Bool := c ≠ '"' && c ≠ '\\' && 0x20 ≤ c.toNat

theorem unescaped_cons {c : Char} {s : List Char} (plain : (c :: s).all isUnescaped = true) :
    c ≠ '"' ∧ c ≠ '\\' ∧ 0x20 ≤ c.toNat ∧ s.all isUnescaped = true := by
  simpa only [List.all_cons, isUnescaped, Bool.and_eq_true, decide_eq_true_eq, and_assoc]
    using plain

theorem quotable_plain {s : List Char} (plain : s.all isUnescaped = true) : Quotable s := by
  induction s with
  | nil => exact .nil
  | cons c s ih =>
    obtain ⟨notQuote, notBackslash, printable, later⟩ := unescaped_cons plain
    exact .plain notQuote notBackslash printable (ih later)

section parts

variable {α : Type}

-- The parts of an array or an object that are still to come, with its closing bracket. A comma
-- stands in front of each part but the first.
inductive Parts (part : List Char → α → List Char → Prop) (closing : Char) :
    Bool → List Char → List α → List Char → Prop
  | closed {first : Bool} {s rest : List Char} : Blanks s (closing :: rest) →
      Parts part closing first s [] rest
  | first {s t u rest : List Char} {a : α} {as : List α} : Blanks s t → part t a u →
      Parts part closing false u as rest → Parts part closing true s (a :: as) rest
  | later {s t u v rest : List Char} {a : α} {as : List α} : Blanks s (',' :: t) → Blanks t u →
      part u a v → Parts part closing false v as rest → Parts part closing false s (a :: as) rest

inductive Named (part : List Char → α → List Char → Prop) :
    List Char → List Char × α → List Char → Prop
  | intro {s t u v key rest : List Char} {a : α} : Quotable key → s = key ++ '"' :: t →
      Blanks t (':' :: u) → Blanks u v → part v a rest → Named part ('"' :: s) (key, a) rest

end parts

inductive Takes : List Char → Form → List Char → Prop
  | null {rest : List Char} : Takes ('n' :: 'u' :: 'l' :: 'l' :: rest) .null rest
  | yes {rest : List Char} : Takes ('t' :: 'r' :: 'u' :: 'e' :: rest) (.bool true) rest
  | no {rest : List Char} : Takes ('f' :: 'a' :: 'l' :: 's' :: 'e' :: rest) (.bool false) rest
  | number {spelling s rest : List Char} : IsNumber spelling → s = spelling ++ rest →
      Takes s (.number spelling) rest
  | string {spelling s rest : List Char} : Quotable spelling → s = spelling ++ '"' :: rest →
      Takes ('"' :: s) (.string spelling) rest
  | array {s rest : List Char} {items : List Form} : Parts Takes ']' true s items rest →
      Takes ('[' :: s) (.array items) rest
  | object {s rest : List Char} {members : List (List Char × Form)} :
      Parts (Named Takes) '\x7d' true s members rest → Takes ('\x7b' :: s) (.object members) rest

def Formed (text : List Char) (form : Form) : Prop :=
  ∃ s rest, Blanks text s ∧ Takes s form rest ∧ Blanks rest []

def Starts (s : List Char) (form : Form) (rest : List Char) : Prop :=
  (∃ t, Blanks s t ∧ Takes t form rest) ∧ Ended rest

variable {s rest : List Char} {form : Form}

theorem number_starts {spelling : List Char} {c : Char} (number : IsNumber spelling)
    (same : c :: s = spelling ++ rest) : c = '-' ∨ c.isDigit = true := by
  obtain ⟨d, tail, rfl, opened⟩ := number_opening spelling number
  rw [(List.cons.inj same).1]
  exact opened

theorem takes_begins (takes : Takes s form rest) : Begins s := by
  cases takes with
  | number number same =>
    obtain ⟨c, tail, rfl, sign | digit⟩ := number_opening _ number
    · subst same sign
      exact ⟨'-', _, rfl, rfl, by decide, by decide⟩
    · subst same
      exact digit_begins c _ digit
  | null => exact ⟨_, _, rfl, rfl, by decide, by decide⟩
  | yes => exact ⟨_, _, rfl, rfl, by decide, by decide⟩
  | no => exact ⟨_, _, rfl, rfl, by decide, by decide⟩
  | string => exact ⟨_, _, rfl, rfl, by decide, by decide⟩
  | array => exact ⟨_, _, rfl, rfl, by decide, by decide⟩
  | object => exact ⟨_, _, rfl, rfl, by decide, by decide⟩

theorem named_begins {member : List Char × Form} (named : Named Takes s member rest) :
    Begins s := by
  cases named
  exact ⟨'"', _, rfl, rfl, by decide, by decide⟩

theorem takes_null (takes : Takes ('n' :: s) form rest) :
    form = .null ∧ s = 'u' :: 'l' :: 'l' :: rest := by
  cases takes with
  | null => exact ⟨rfl, rfl⟩
  | number number same => exact absurd (number_starts number same) (by decide)

theorem takes_yes (takes : Takes ('t' :: s) form rest) :
    form = .bool true ∧ s = 'r' :: 'u' :: 'e' :: rest := by
  cases takes with
  | yes => exact ⟨rfl, rfl⟩
  | number number same => exact absurd (number_starts number same) (by decide)

theorem takes_no (takes : Takes ('f' :: s) form rest) :
    form = .bool false ∧ s = 'a' :: 'l' :: 's' :: 'e' :: rest := by
  cases takes with
  | no => exact ⟨rfl, rfl⟩
  | number number same => exact absurd (number_starts number same) (by decide)

theorem takes_quote (takes : Takes ('"' :: s) form rest) :
    ∃ spelling, form = .string spelling ∧ Quotable spelling ∧ s = spelling ++ '"' :: rest := by
  cases takes with
  | string quotable same => exact ⟨_, rfl, quotable, same⟩
  | number number same => exact absurd (number_starts number same) (by decide)

theorem takes_bracket (takes : Takes ('[' :: s) form rest) :
    ∃ items, form = .array items ∧ Parts Takes ']' true s items rest := by
  cases takes with
  | array parts => exact ⟨_, rfl, parts⟩
  | number number same => exact absurd (number_starts number same) (by decide)

theorem takes_brace (takes : Takes ('\x7b' :: s) form rest) :
    ∃ members, form = .object members ∧ Parts (Named Takes) '\x7d' true s members rest := by
  cases takes with
  | object parts => exact ⟨_, rfl, parts⟩
  | number number same => exact absurd (number_starts number same) (by decide)

theorem parts_ended {α : Type} {part : List Char → α → List Char → Prop} {closing : Char}
    {as : List α} (parts : Parts part closing false s as rest)
    (other : isNumeric closing = false) : Ended s := by
  cases parts with
  | closed closed => exact ended_before_blanks closed (ended_at closing rest other)
  | later comma => exact ended_before_blanks comma (ended_at ',' _ rfl)

theorem skip_blank_blanks {tail : List Char} {c : Char} (blanks : Blanks s (c :: tail))
    (visible : isBlank c = false) : skipBlank s = c :: tail := by
  generalize stop : c :: tail = t at blanks
  induction blanks with
  | none =>
    subst stop
    exact List.dropWhile_cons_of_neg (by simp [visible])
  | more blank _ ih =>
    rw [skipBlank, List.dropWhile_cons_of_pos blank]
    exact ih stop

theorem skip_blank_all (blanks : Blanks s []) : skipBlank s = [] := by
  generalize stop : [] = t at blanks
  induction blanks with
  | none => rw [← stop, skipBlank, List.dropWhile_nil]
  | more blank _ ih =>
    rw [skipBlank, List.dropWhile_cons_of_pos blank]
    exact ih stop

theorem blanks_skipped (s : List Char) : Blanks s (skipBlank s) := by
  induction s with
  | nil => exact .none
  | cons c s ih =>
    by_cases blank : isBlank c = true
    · rw [skipBlank, List.dropWhile_cons_of_pos blank]
      exact .more blank ih
    · rw [skipBlank, List.dropWhile_cons_of_neg blank]
      exact .none

theorem blanks_before {c : Char} {tail : List Char} (found : skipBlank s = c :: tail) :
    Blanks s (c :: tail) :=
  found ▸ blanks_skipped s

theorem starts_found (starts : Starts s form rest) :
    ∃ c tail, skipBlank s = c :: tail ∧ Takes (c :: tail) form rest ∧ c ≠ ']' := by
  obtain ⟨⟨t, blanks, takes⟩, _⟩ := starts
  obtain ⟨c, tail, rfl, visible, notBracket, _⟩ := takes_begins takes
  exact ⟨c, tail, skip_blank_blanks blanks visible, takes, notBracket⟩

theorem formed_starts (formed : Formed s form) :
    ∃ rest, Starts s form rest ∧ skipBlank rest = [] := by
  obtain ⟨t, rest, blanks, takes, after⟩ := formed
  exact ⟨rest, ⟨⟨t, blanks, takes⟩, ended_before_blanks after nofun⟩, skip_blank_all after⟩

end NatSpec.Json
