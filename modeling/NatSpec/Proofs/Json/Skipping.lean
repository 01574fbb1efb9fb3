import NatSpec.Json.Skip
import NatSpec.Proofs.Json.Forms

set_option autoImplicit false

namespace NatSpec.Json

section strings

theorem skip_escape_marked (mark : Char) (rest : List Char)
    (marked : (shortEscape? mark).isSome = true) :
    ∃ shorter, skipEscape (mark :: rest) = .ok ⟨rest, shorter⟩ := by
  have notCode : mark ≠ 'u' := by
    rintro rfl
    cases marked
  refine ⟨by simp, ?_⟩
  rw [skipEscape]
  · exact if_pos marked
  · exact notCode

theorem skip_escape_code (a b c d : Char) (rest : List Char)
    (coded : (hexValues? [a, b, c, d]).isSome = true) :
    ∃ shorter, skipEscape ('u' :: a :: b :: c :: d :: rest) = .ok ⟨rest, shorter⟩ := by
  obtain ⟨unit, value⟩ := Option.isSome_iff_exists.mp coded
  refine ⟨by simp only [List.length_cons]; omega, ?_⟩
  simp [skipEscape, hexFour, value]

theorem skip_string_escaped {s after : List Char}
    (escaped : ∃ shorter, skipEscape s = .ok ⟨after, shorter⟩) :
    skipString ('\\' :: s) = skipString after := by
  obtain ⟨shorter, escaped⟩ := escaped
  rw [skipString, if_neg (by decide), if_pos rfl]
  split
  · rename_i halted
    cases escaped.symm.trans halted
  · rename_i found
    cases escaped.symm.trans found
    rfl

theorem skip_string_quotable {spelling : List Char} (quotable : Quotable spelling)
    (rest : List Char) : skipString (spelling ++ '"' :: rest) = .ok rest := by
  induction quotable with
  | nil => rw [List.nil_append, skipString, if_pos rfl]
  | plain notQuote notBackslash printable _ ih =>
    rw [List.cons_append, skipString, if_neg notQuote, if_neg notBackslash,
      if_neg (Nat.not_lt.mpr printable), ih]
  | short marked _ ih => exact (skip_string_escaped (skip_escape_marked _ _ marked)).trans ih
  | code coded _ ih => exact (skip_string_escaped (skip_escape_code _ _ _ _ _ coded)).trans ih

end strings

section numbers

def Undigited (s : List Char) : Prop := startsWithDigit s = false

theorem ended_undigited {rest : List Char} (ended : Ended rest) : Undigited rest := by
  cases rest with
  | nil => rfl
  | cons c tail =>
    have other := ended c tail rfl
    simp only [isNumeric, Bool.or_eq_false_iff] at other
    exact other.1.1.1.1.1

theorem skip_digits_all {digits rest : List Char} (all : ∀ c ∈ digits, c.isDigit = true)
    (undigited : Undigited rest) : skipDigits (digits ++ rest) = rest := by
  induction digits with
  | nil =>
    cases rest with
    | nil => rfl
    | cons c tail => exact List.dropWhile_cons_of_neg (Bool.eq_false_iff.mp undigited)
  | cons c digits ih =>
    rw [skipDigits, List.cons_append, List.dropWhile_cons_of_pos (all c (List.mem_cons_self ..))]
    exact ih fun d later => all d (List.mem_cons_of_mem _ later)

theorem starts_with_digits {digits : List Char} (isDigits : IsDigits digits) (rest : List Char) :
    startsWithDigit (digits ++ rest) = true := by
  obtain ⟨c, tail, rfl⟩ := List.exists_cons_of_ne_nil isDigits.1
  exact isDigits.2 c (List.mem_cons_self ..)

theorem exponent_undigited {exponent rest : List Char} (isExponent : IsExponent exponent)
    (ended : Ended rest) : Undigited (exponent ++ rest) := by
  rcases isExponent with rfl | ⟨mark, sign, digits, rfl, rfl | rfl, _, _⟩
  · exact ended_undigited ended
  · rfl
  · rfl

theorem fraction_undigited {fraction rest : List Char} (isFraction : IsFraction fraction)
    (undigited : Undigited rest) : Undigited (fraction ++ rest) := by
  rcases isFraction with rfl | ⟨digits, rfl, _⟩
  · exact undigited
  · rfl

theorem after_sign_digits {digits : List Char} (isDigits : IsDigits digits) (rest : List Char) :
    afterSign (digits ++ rest) = digits ++ rest := by
  obtain ⟨c, tail, rfl⟩ := List.exists_cons_of_ne_nil isDigits.1
  have digit := isDigits.2 c (List.mem_cons_self ..)
  have unsigned (sign : Char) (notDigit : sign.isDigit = false) : some c ≠ some sign := by
    rintro same
    cases same
    rw [digit] at notDigit
    cases notDigit
  exact if_neg (not_or.mpr ⟨unsigned '-' rfl, unsigned '+' rfl⟩)

theorem skip_exponent {sign digits rest : List Char}
    (signed : sign = [] ∨ sign = ['+'] ∨ sign = ['-']) (isDigits : IsDigits digits)
    (undigited : Undigited rest) : skipExponent (sign ++ digits ++ rest) = .ok rest := by
  have after : afterSign (sign ++ digits ++ rest) = digits ++ rest := by
    rcases signed with rfl | rfl | rfl
    · exact after_sign_digits isDigits rest
    · rfl
    · rfl
  rw [skipExponent, after, if_pos (starts_with_digits isDigits rest),
    skip_digits_all isDigits.2 undigited]

theorem skip_exponent_or_end {exponent rest : List Char} (isExponent : IsExponent exponent)
    (ended : Ended rest) : skipExponentOrEnd (exponent ++ rest) = .ok rest := by
  rcases isExponent with rfl | ⟨mark, sign, digits, rfl, marked, signed, isDigits⟩
  · refine if_neg ?_
    cases rest with
    | nil => exact nofun
    | cons c tail =>
      have other := ended c tail rfl
      simp only [isNumeric, Bool.or_eq_false_iff, decide_eq_false_iff_not] at other
      simp [isExponentMark, other]
  · have mark : ([mark].head?.any isExponentMark) = true := by
      rcases marked with rfl | rfl <;> rfl
    rw [List.cons_append, skipExponentOrEnd]
    exact (if_pos mark).trans (skip_exponent signed isDigits (ended_undigited ended))

theorem skip_after_whole {fraction exponent rest : List Char} (isFraction : IsFraction fraction)
    (isExponent : IsExponent exponent) (ended : Ended rest) :
    skipAfterWhole (fraction ++ (exponent ++ rest)) = .ok rest := by
  rcases isFraction with rfl | ⟨digits, rfl, isDigits⟩
  · refine (if_neg ?_).trans (skip_exponent_or_end isExponent ended)
    rcases isExponent with rfl | ⟨mark, sign, digits, rfl, rfl | rfl, _, _⟩
    · cases rest with
      | nil => exact nofun
      | cons c tail =>
        rintro same
        cases same
        cases ended '.' tail rfl
    · exact nofun
    · exact nofun
  · refine (if_pos rfl).trans ?_
    rw [List.cons_append, List.drop_one, List.tail_cons,
      if_pos (starts_with_digits isDigits _),
      skip_digits_all isDigits.2 (exponent_undigited isExponent ended)]
    exact skip_exponent_or_end isExponent ended

theorem skip_number {whole fraction exponent rest : List Char} (isWhole : IsWhole whole)
    (isFraction : IsFraction fraction) (isExponent : IsExponent exponent) (ended : Ended rest) :
    skipNumber (whole ++ (fraction ++ (exponent ++ rest))) = .ok rest := by
  have undigited := fraction_undigited isFraction (exponent_undigited isExponent ended)
  have later := skip_after_whole isFraction isExponent ended
  rcases isWhole with rfl | ⟨isDigits, notZero⟩
  · rw [List.singleton_append, skipNumber, if_pos rfl,
      if_neg (Bool.eq_false_iff.mp undigited), later]
  · obtain ⟨c, digits, rfl⟩ := List.exists_cons_of_ne_nil isDigits.1
    have further := skip_digits_all (fun d member => isDigits.2 d (List.mem_cons_of_mem _ member))
      undigited
    rw [List.cons_append, skipNumber, if_neg (fun zero => notZero (congrArg some zero)),
      if_pos (isDigits.2 c (List.mem_cons_self ..)), further, later]

theorem skip_scalar_number {spelling rest : List Char} (number : IsNumber spelling)
    (ended : Ended rest) : skipScalar (spelling ++ rest) = .ok rest := by
  obtain ⟨sign, whole, fraction, exponent, rfl, signed, isWhole, isFraction, isExponent⟩ := number
  have skipped := skip_number isWhole isFraction isExponent ended
  rw [List.append_assoc, List.append_assoc, List.append_assoc]
  rcases signed with rfl | rfl
  · obtain ⟨c, tail, rfl, digit⟩ : ∃ c tail, whole = c :: tail ∧ c.isDigit = true := by
      rcases isWhole with rfl | ⟨isDigits, _⟩
      · exact ⟨'0', [], rfl, rfl⟩
      · obtain ⟨c, tail, rfl⟩ := List.exists_cons_of_ne_nil isDigits.1
        exact ⟨c, tail, rfl, isDigits.2 c (List.mem_cons_self ..)⟩
    rw [List.cons_append] at skipped
    rw [List.nil_append, List.cons_append, skipScalar, if_pos digit, skipped]
    all_goals
      rintro rfl
      cases digit
  · exact skipped

end numbers

section values

variable {brackets : List Bracket} {bracket : Bracket} {s tail rest : List Char} {c : Char}

theorem skip_from_scalar (found : skipBlank s = c :: tail) (notList : c ≠ '[')
    (notObject : c ≠ '\x7b') (scalar : skipScalar (c :: tail) = .ok rest) :
    skipFrom .value brackets s = skipFrom .closed brackets rest := by
  rw [skipFrom]
  split
  · rename_i nothing
    cases found.symm.trans nothing
  · rename_i opening
    exact absurd (List.cons.inj (found.symm.trans opening)).1 notList
  · rename_i opening
    exact absurd (List.cons.inj (found.symm.trans opening)).1 notObject
  · rw [← found] at scalar
    split
    · rename_i halted
      cases scalar.symm.trans halted
    · rename_i skipped
      cases scalar.symm.trans skipped
      rfl

theorem skip_from_bracket (found : skipBlank s = '[' :: rest) :
    skipFrom .value brackets s = skipFrom .opened (.list :: brackets) rest := by
  rw [skipFrom]
  split
  · rename_i nothing
    cases found.symm.trans nothing
  · rename_i opening
    cases found.symm.trans opening
    rfl
  · rename_i opening
    cases found.symm.trans opening
  · rename_i notList _
    exact absurd found (notList rest)

theorem skip_from_brace (found : skipBlank s = '\x7b' :: rest) :
    skipFrom .value brackets s = skipFrom .opened (.object :: brackets) rest := by
  rw [skipFrom]
  split
  · rename_i nothing
    cases found.symm.trans nothing
  · rename_i opening
    cases found.symm.trans opening
  · rename_i opening
    cases found.symm.trans opening
    rfl
  · rename_i notObject
    exact absurd found (notObject rest)

theorem skip_from_opened (found : skipBlank s = c :: tail) :
    skipFrom .opened (bracket :: brackets) s =
      if c = bracket.closing then skipFrom .closed brackets tail
      else skipFrom bracket.inside (bracket :: brackets) s := by
  rw [skipFrom]
  split <;> cases found.symm.trans ‹skipBlank s = _›
  rfl

theorem skip_from_closed (found : skipBlank s = c :: tail) :
    skipFrom .closed (bracket :: brackets) s =
      if c = bracket.closing then skipFrom .closed brackets tail
      else if c = ',' then skipFrom bracket.inside (bracket :: brackets) tail
      else .error (.upon bracket.commaError (c :: tail)) := by
  rw [skipFrom]
  split <;> cases found.symm.trans ‹skipBlank s = _›
  rfl

theorem skip_from_key (skipped : skipKey s = .ok rest) :
    skipFrom .key brackets s = skipFrom .value brackets rest := by
  conv => lhs; rw [skipFrom]
  split
  · rename_i halted
    cases skipped.symm.trans halted
  · rename_i found
    cases skipped.symm.trans found
    rfl

theorem skip_from_ended (rest : List Char) : skipFrom .closed [] rest = .ok rest := by
  rw [skipFrom]

-- What is kept of the open brackets plays no part in a value.
def Passes (form : Form) : Prop :=
  ∀ s rest brackets, Starts s form rest →
    skipFrom .value brackets s = skipFrom .closed brackets rest

theorem closing_visible (bracket : Bracket) : isBlank bracket.closing = false := by
  cases bracket <;> rfl

theorem closing_not_numeric (bracket : Bracket) : isNumeric bracket.closing = false := by
  cases bracket <;> rfl

theorem comma_not_closing (bracket : Bracket) : ',' ≠ bracket.closing := by
  cases bracket <;> decide

theorem begins_not_closing (bracket : Bracket) (begins : Begins s) :
    ∃ c tail, s = c :: tail ∧ isBlank c = false ∧ c ≠ bracket.closing := by
  obtain ⟨c, tail, rfl, visible, notBracket, notBrace⟩ := begins
  refine ⟨c, tail, rfl, visible, ?_⟩
  cases bracket with
  | list => exact notBracket
  | object => exact notBrace

theorem parts_passed {α : Type} {part : List Char → α → List Char → Prop} {as : List α}
    {first : Bool} (bracket : Bracket) (begins : ∀ s a rest, part s a rest → Begins s)
    (inside : ∀ a ∈ as, ∀ s t u, Blanks s t → part t a u → Ended u →
      skipFrom bracket.inside (bracket :: brackets) s = skipFrom .closed (bracket :: brackets) u)
    (parts : Parts part bracket.closing first s as rest) :
    skipFrom (if first then .opened else .closed) (bracket :: brackets) s =
      skipFrom .closed brackets rest := by
  induction parts with
  | @closed first s rest closed =>
    have found := skip_blank_blanks closed (closing_visible bracket)
    cases first with
    | true => exact (skip_from_opened found).trans (if_pos rfl)
    | false => exact (skip_from_closed found).trans (if_pos rfl)
  | first blanks starts later ih =>
    have here := inside _ (List.mem_cons_self ..) _ _ _ blanks starts
      (parts_ended later (closing_not_numeric bracket))
    obtain ⟨c, tail, rfl, visible, notClosing⟩ := begins_not_closing bracket (begins _ _ _ starts)
    have found := skip_blank_blanks blanks visible
    rw [if_pos rfl, skip_from_opened found, if_neg notClosing, here]
    exact ih fun a further => inside a (List.mem_cons_of_mem _ further)
  | later comma blanks starts later ih =>
    have here := inside _ (List.mem_cons_self ..) _ _ _ blanks starts
      (parts_ended later (closing_not_numeric bracket))
    have found := skip_blank_blanks comma rfl
    rw [if_neg Bool.false_ne_true, skip_from_closed found, if_neg (comma_not_closing bracket),
      if_pos rfl, here]
    exact ih fun a further => inside a (List.mem_cons_of_mem _ further)

theorem skip_key_named {key t u : List Char} (quotable : Quotable key)
    (blanks : Blanks s ('"' :: (key ++ '"' :: t))) (colon : Blanks t (':' :: u)) :
    skipKey s = .ok u := by
  have found := skip_blank_blanks blanks rfl
  have skipped := skip_string_quotable quotable t
  have next := skip_blank_blanks colon rfl
  simp only [skipKey, found, skipped, next, if_pos]

theorem scalar_passes {form : Form}
    (scalar : ∀ s rest, Takes s form rest → Ended rest →
      (∃ c tail, s = c :: tail ∧ c ≠ '[' ∧ c ≠ '\x7b') ∧ skipScalar s = .ok rest) :
    Passes form := by
  rintro s rest brackets ⟨⟨t, blanks, takes⟩, ended⟩
  obtain ⟨⟨c, tail, rfl, notList, notObject⟩, skipped⟩ := scalar t rest takes ended
  obtain ⟨d, after, same, visible, _⟩ := takes_begins takes
  cases same
  exact skip_from_scalar (skip_blank_blanks blanks visible) notList notObject skipped

theorem array_passes {items : List Form} (passes : ∀ item ∈ items, Passes item) :
    Passes (.array items) := by
  rintro s rest brackets ⟨⟨t, blanks, takes⟩, _⟩
  cases takes with
  | array parts =>
    rw [skip_from_bracket (skip_blank_blanks blanks rfl)]
    refine parts_passed .list (fun _ _ _ => takes_begins) ?_ parts
    exact fun item listed s t u blanks takes ended =>
      passes item listed s u _ ⟨⟨t, blanks, takes⟩, ended⟩

theorem object_passes {members : List (List Char × Form)}
    (passes : ∀ member ∈ members, Passes member.2) : Passes (.object members) := by
  rintro s rest brackets ⟨⟨t, blanks, takes⟩, _⟩
  cases takes with
  | object parts =>
    rw [skip_from_brace (skip_blank_blanks blanks rfl)]
    refine parts_passed .object (fun _ _ _ => named_begins) ?_ parts
    rintro member listed s t u blanks ⟨quotable, rfl, colon, further, takes⟩ ended
    rw [Bracket.inside, skip_from_key (skip_key_named quotable blanks colon)]
    exact passes _ listed _ _ _ ⟨⟨_, further, takes⟩, ended⟩

theorem form_passes (form : Form) : Passes form := by
  cases form with
  | null =>
    refine scalar_passes fun s rest takes _ => ?_
    cases takes
    exact ⟨⟨_, _, rfl, by decide, by decide⟩, rfl⟩
  | bool value =>
    refine scalar_passes fun s rest takes _ => ?_
    cases takes
    · exact ⟨⟨_, _, rfl, by decide, by decide⟩, rfl⟩
    · exact ⟨⟨_, _, rfl, by decide, by decide⟩, rfl⟩
  | number spelling =>
    refine scalar_passes fun s rest takes ended => ?_
    cases takes with
    | number number same =>
      subst same
      refine ⟨?_, skip_scalar_number number ended⟩
      obtain ⟨c, tail, rfl, opened⟩ := number_opening spelling number
      refine ⟨c, _, rfl, ?_, ?_⟩
      all_goals
        rintro rfl
        exact absurd opened (by decide)
  | string spelling =>
    refine scalar_passes fun s rest takes _ => ?_
    cases takes with
    | string quotable same =>
      subst same
      exact ⟨⟨_, _, rfl, by decide, by decide⟩, skip_string_quotable quotable rest⟩
  | array items => exact array_passes fun item listed => form_passes item
  | object members => exact object_passes fun member listed => form_passes member.2
termination_by sizeOf form
decreasing_by
  · have smaller := List.sizeOf_lt_of_mem listed
    simp only [Form.array.sizeOf_spec]
    omega
  · have smaller := List.sizeOf_lt_of_mem listed
    have parts : sizeOf member = 1 + sizeOf member.1 + sizeOf member.2 := by cases member; rfl
    simp only [Form.object.sizeOf_spec]
    omega

theorem skip_value_starts {form : Form} (starts : Starts s form rest) :
    skipValue s = .ok rest :=
  (form_passes form s rest [] starts).trans (skip_from_ended rest)

end values

end NatSpec.Json
