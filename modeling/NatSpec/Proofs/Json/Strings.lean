import NatSpec.Json.Token
import NatSpec.Json.Written

set_option autoImplicit false

namespace NatSpec.Json

def Leaves {α : Type} {s : List Char} (result : Except Halt (α × Rest s)) (value : α)
    (rest : List Char) : Prop :=
  ∃ shorter, result = .ok (value, ⟨rest, shorter⟩)

theorem hex_digits_value : ∀ n < 0x20,
    hexValues? ['0', '0', hexDigit (n / 16), hexDigit n] = some n := by
  decide

theorem control_not_surrogate (n : Nat) (control : n < 0x20) :
    isLeading n = false ∧ isTrailing n = false := by
  simp only [isLeading, isTrailing, Bool.and_eq_false_iff, decide_eq_false_iff_not]
  omega

theorem code_escape_read {a b c d : Char} {unit : Nat} (rest : List Char)
    (value : hexValues? [a, b, c, d] = some unit) (notLeading : isLeading unit = false)
    (notTrailing : isTrailing unit = false) :
    Leaves (escaped ('u' :: a :: b :: c :: d :: rest)) (.ofNat unit) rest := by
  refine ⟨by simp only [List.length_cons]; omega, ?_⟩
  simp [escaped, codeEscape, hexFour, value, notLeading, notTrailing]

theorem control_escape_read (c : Char) (rest : List Char) (control : c.toNat < 0x20) :
    Leaves (escaped ('u' :: '0' :: '0' :: hexDigit (c.toNat / 16) :: hexDigit c.toNat :: rest)) c
      rest := by
  have value := hex_digits_value c.toNat control
  obtain ⟨notLeading, notTrailing⟩ := control_not_surrogate c.toNat control
  have read := code_escape_read rest value notLeading notTrailing
  rwa [Char.ofNat_toNat] at read

theorem string_body_escaped (read rest after : List Char) (c : Char)
    (found : Leaves (escaped rest) c after) :
    stringBody read ('\\' :: rest) = stringBody (c :: read) after := by
  obtain ⟨shorter, found⟩ := found
  rw [stringBody, if_neg (by decide), if_pos rfl]
  split
  · rename_i halted
    rw [found] at halted
    cases halted
  · rename_i decoded
    rw [found] at decoded
    cases decoded
    rfl

theorem string_body_plain (read rest : List Char) (c : Char) (notQuote : c ≠ '"')
    (notBackslash : c ≠ '\\') (printable : ¬ c.toNat < 0x20) :
    stringBody read (c :: rest) = stringBody (c :: read) rest := by
  rw [stringBody, if_neg notQuote, if_neg notBackslash, if_neg printable]

theorem escape_char_cases (c : Char) :
    (∃ mark, shortEscape? mark = some c ∧ escapeChar c = ['\\', mark]) ∨
      (c.toNat < 0x20 ∧
        escapeChar c = ['\\', 'u', '0', '0', hexDigit (c.toNat / 16), hexDigit c.toNat]) ∨
      (c ≠ '"' ∧ c ≠ '\\' ∧ 0x20 ≤ c.toNat ∧ escapeChar c = [c]) := by
  by_cases quote : c = '"'
  · subst c
    exact .inl ⟨'"', rfl, rfl⟩
  by_cases backslash : c = '\\'
  · subst c
    exact .inl ⟨'\\', rfl, rfl⟩
  by_cases backspace : c = '\x08'
  · subst c
    exact .inl ⟨'b', rfl, rfl⟩
  by_cases formFeed : c = '\x0c'
  · subst c
    exact .inl ⟨'f', rfl, rfl⟩
  by_cases lineFeed : c = '\n'
  · subst c
    exact .inl ⟨'n', rfl, rfl⟩
  by_cases carriageReturn : c = '\r'
  · subst c
    exact .inl ⟨'r', rfl, rfl⟩
  by_cases tab : c = '\t'
  · subst c
    exact .inl ⟨'t', rfl, rfl⟩
  rw [escapeChar, if_neg quote, if_neg backslash, if_neg backspace, if_neg formFeed,
    if_neg lineFeed, if_neg carriageReturn, if_neg tab]
  by_cases control : c.toNat < 0x20
  · exact .inr (.inl ⟨control, if_pos control⟩)
  · exact .inr (.inr ⟨quote, backslash, Nat.le_of_not_lt control, if_neg control⟩)

theorem short_escape_read (mark c : Char) (rest : List Char) (marked : shortEscape? mark = some c) :
    Leaves (escaped (mark :: rest)) c rest := by
  have notCode : mark ≠ 'u' := by
    rintro rfl
    cases marked
  refine ⟨by simp, ?_⟩
  rw [escaped]
  · split
    · rename_i decoded found
      rw [found] at marked
      cases marked
      rfl
    · rename_i missing
      rw [missing] at marked
      cases marked
  · exact notCode

theorem string_body_escape_char (read rest : List Char) (c : Char) :
    stringBody read (escapeChar c ++ rest) = stringBody (c :: read) rest := by
  rcases escape_char_cases c with
    ⟨mark, marked, written⟩ | ⟨control, written⟩ | ⟨quote, backslash, printable, written⟩
  · rw [written]
    exact string_body_escaped read _ rest c (short_escape_read mark c rest marked)
  · rw [written]
    exact string_body_escaped read _ rest c (control_escape_read c rest control)
  · rw [written]
    exact string_body_plain read rest c quote backslash (Nat.not_lt.mpr printable)

theorem string_body_escape (read text rest : List Char) :
    stringBody read (escape text ++ '"' :: rest) = .ok (read.reverse ++ text, rest) := by
  induction text generalizing read with
  | nil => rw [escape_nil, List.nil_append, stringBody, if_pos rfl, List.append_nil]
  | cons c text ih =>
    rw [escape_cons, List.append_assoc, string_body_escape_char, ih, List.reverse_cons,
      List.append_assoc, List.singleton_append]

end NatSpec.Json
