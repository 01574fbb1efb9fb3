import NatSpec.Proofs.Json.Skipping
import NatSpec.Proofs.Json.Strings

set_option autoImplicit false

namespace NatSpec.Json

section soundness

variable {s after : List Char} {shorter : after.length < s.length}

theorem hex_four_taken {unit : Nat} (found : hexFour s = .ok (unit, ⟨after, shorter⟩)) :
    ∃ a b c d, s = a :: b :: c :: d :: after ∧ hexValues? [a, b, c, d] = some unit := by
  unfold hexFour at found
  split at found
  · rename_i a b c d tail
    split at found
    · rename_i value
      cases found
      exact ⟨a, b, c, d, rfl, value⟩
    · cases found
  · cases found

theorem trailing_unit_taken {unit : Nat}
    (found : trailingUnit s = .ok (unit, ⟨after, shorter⟩)) :
    ∃ a b c d, s = '\\' :: 'u' :: a :: b :: c :: d :: after ∧
      hexValues? [a, b, c, d] = some unit ∧ isTrailing unit = true := by
  unfold trailingUnit at found
  split at found
  · cases found
  · cases found
  · split at found
    · cases found
    · rename_i four
      split at found
      · rename_i trailing
        cases found
        obtain ⟨a, b, c, d, rfl, value⟩ := hex_four_taken four
        exact ⟨a, b, c, d, rfl, value, trailing⟩
      · cases found
  · cases found
  · cases found

theorem code_escape_taken {c : Char} {text rest : List Char}
    (found : codeEscape s = .ok (c, ⟨after, shorter⟩)) (body : StringBody after text rest) :
    StringBody ('\\' :: 'u' :: s) (c :: text) rest := by
  unfold codeEscape at found
  split at found
  · cases found
  · rename_i four
    obtain ⟨_, _, _, _, rfl, value⟩ := hex_four_taken four
    split at found
    · cases found
    · rename_i notTrailing
      split at found
      · rename_i leading
        split at found
        · cases found
        · rename_i second
          obtain ⟨_, _, _, _, rfl, trailingValue, trailing⟩ := trailing_unit_taken second
          simp only [Except.ok.injEq, Prod.mk.injEq, Subtype.mk.injEq] at found
          obtain ⟨rfl, rfl⟩ := found
          exact .pair value leading trailingValue trailing body
      · rename_i notLeading
        cases found
        exact .code value (Bool.eq_false_iff.mpr notLeading) (Bool.eq_false_iff.mpr notTrailing)
          body

theorem escaped_taken {c : Char} {text rest : List Char}
    (found : escaped s = .ok (c, ⟨after, shorter⟩)) (body : StringBody after text rest) :
    StringBody ('\\' :: s) (c :: text) rest := by
  unfold escaped at found
  split at found
  · cases found
  · split at found
    · cases found
    · rename_i code
      cases found
      exact code_escape_taken code body
  · split at found
    · rename_i marked
      cases found
      exact .short marked body
    · cases found

theorem string_body_taken {read result rest : List Char}
    (found : stringBody read s = .ok (result, rest)) :
    ∃ text, result = read.reverse ++ text ∧ StringBody s text rest := by
  fun_induction stringBody read s with
  | case1 => cases found
  | case2 =>
    cases found
    exact ⟨[], (List.append_nil _).symm, .close⟩
  | case3 => cases found
  | case4 _ _ c _ _ escape _ ih =>
    obtain ⟨text, rfl, body⟩ := ih found
    exact ⟨c :: text, by simp, escaped_taken escape body⟩
  | case5 => cases found
  | case6 read c s notQuote notBackslash printable ih =>
    obtain ⟨text, rfl, body⟩ := ih found
    exact ⟨c :: text, by simp, .plain notQuote notBackslash (Nat.le_of_not_lt printable) body⟩

end soundness

section completeness

variable {s text rest : List Char}

theorem leading_not_trailing {unit : Nat} (leading : isLeading unit = true) :
    isTrailing unit = false := by
  simp only [isLeading, Bool.and_eq_true, decide_eq_true_eq] at leading
  simp only [isTrailing, Bool.and_eq_false_iff, decide_eq_false_iff_not]
  omega

theorem pair_escape_read {a b c d e f g h : Char} {leading trailing : Nat} (rest : List Char)
    (value : hexValues? [a, b, c, d] = some leading) (isLead : isLeading leading = true)
    (trailingValue : hexValues? [e, f, g, h] = some trailing)
    (isTrail : isTrailing trailing = true) :
    Leaves (escaped ('u' :: a :: b :: c :: d :: '\\' :: 'u' :: e :: f :: g :: h :: rest))
      (surrogatePair leading trailing) rest := by
  refine ⟨by simp only [List.length_cons]; omega, ?_⟩
  simp [escaped, codeEscape, hexFour, trailingUnit, value, isLead, leading_not_trailing isLead,
    trailingValue, isTrail]

theorem string_body_read (body : StringBody s text rest) (read : List Char) :
    stringBody read s = .ok (read.reverse ++ text, rest) := by
  induction body generalizing read with
  | close => rw [stringBody, if_pos rfl, List.append_nil]
  | plain notQuote notBackslash printable _ ih =>
    rw [string_body_plain _ _ _ notQuote notBackslash (Nat.not_lt.mpr printable), ih]
    simp
  | short marked _ ih =>
    rw [string_body_escaped _ _ _ _ (short_escape_read _ _ _ marked), ih]
    simp
  | code value notLeading notTrailing _ ih =>
    rw [string_body_escaped _ _ _ _ (code_escape_read _ value notLeading notTrailing), ih]
    simp
  | pair value leading trailingValue trailing _ ih =>
    rw [string_body_escaped _ _ _ _ (pair_escape_read _ value leading trailingValue trailing), ih]
    simp

theorem string_body_skipped (body : StringBody s text rest) : skipString s = .ok rest := by
  induction body with
  | close => rw [skipString, if_pos rfl]
  | plain notQuote notBackslash printable _ ih =>
    rw [skipString, if_neg notQuote, if_neg notBackslash, if_neg (Nat.not_lt.mpr printable), ih]
  | short marked _ ih =>
    exact (skip_string_escaped (skip_escape_marked _ _ (Option.isSome_of_eq_some marked))).trans ih
  | code value _ _ _ ih =>
    have coded := Option.isSome_of_eq_some value
    exact (skip_string_escaped (skip_escape_code _ _ _ _ _ coded)).trans ih
  | pair value _ trailingValue _ _ ih =>
    have coded := Option.isSome_of_eq_some value
    have codedNext := Option.isSome_of_eq_some trailingValue
    refine (skip_string_escaped (skip_escape_code _ _ _ _ _ coded)).trans ?_
    exact (skip_string_escaped (skip_escape_code _ _ _ _ _ codedNext)).trans ih

theorem string_body_before (body : StringBody s text rest) :
    ∃ taken, s = taken ++ rest ∧ ∀ other, StringBody (taken ++ other) text other := by
  induction body with
  | close => exact ⟨['"'], rfl, fun _ => .close⟩
  | plain notQuote notBackslash printable _ ih =>
    obtain ⟨taken, rfl, whatever⟩ := ih
    exact ⟨_ :: taken, rfl, fun other => .plain notQuote notBackslash printable (whatever other)⟩
  | short marked _ ih =>
    obtain ⟨taken, rfl, whatever⟩ := ih
    exact ⟨'\\' :: _ :: taken, rfl, fun other => .short marked (whatever other)⟩
  | code value notLeading notTrailing _ ih =>
    obtain ⟨taken, rfl, whatever⟩ := ih
    exact ⟨'\\' :: 'u' :: _ :: _ :: _ :: _ :: taken, rfl,
      fun other => .code value notLeading notTrailing (whatever other)⟩
  | pair value leading trailingValue trailing _ ih =>
    obtain ⟨taken, rfl, whatever⟩ := ih
    exact ⟨'\\' :: 'u' :: _ :: _ :: _ :: _ :: '\\' :: 'u' :: _ :: _ :: _ :: _ :: taken, rfl,
      fun other => .pair value leading trailingValue trailing (whatever other)⟩

end completeness

def Decodes (spelling text : List Char) : Prop := StringBody (spelling ++ ['"']) text []

variable {spelling text : List Char}

theorem decodes_plain (plain : text.all isUnescaped = true) : Decodes text text := by
  induction text with
  | nil => exact .close
  | cons c text ih =>
    obtain ⟨notQuote, notBackslash, printable, later⟩ := unescaped_cons plain
    exact .plain notQuote notBackslash printable (ih later)

theorem decodes_read (decodes : Decodes spelling text) (rest : List Char) :
    stringBody [] (spelling ++ '"' :: rest) = .ok (text, rest) := by
  obtain ⟨taken, same, whatever⟩ := string_body_before decodes
  rw [List.append_nil] at same
  have body := whatever rest
  rw [← same, List.append_assoc] at body
  exact string_body_read body []

theorem decodes_of_read {rest after : List Char} (quotable : Quotable spelling)
    (read : stringBody [] (spelling ++ '"' :: rest) = .ok (text, after)) :
    Decodes spelling text ∧ after = rest := by
  obtain ⟨decoded, rfl, body⟩ := string_body_taken read
  have stops : after = rest :=
    Except.ok.inj ((string_body_skipped body).symm.trans (skip_string_quotable quotable rest))
  subst stops
  obtain ⟨taken, same, whatever⟩ := string_body_before body
  have joined : taken ++ after = (spelling ++ ['"']) ++ after := by
    rw [← same, List.append_assoc, List.singleton_append]
  have spelled := List.append_cancel_right joined
  have body := whatever []
  rw [List.append_nil, spelled] at body
  exact ⟨body, rfl⟩

end NatSpec.Json
