import NatSpec.Json.Halt

set_option autoImplicit false

namespace NatSpec.Json

abbrev Rest (s : List Char) := { r : List Char // r.length < s.length }

def Rest.within {s t : List Char} (rest : Rest t) (shorter : t.length < s.length) : Rest s :=
  ⟨rest.val, Nat.lt_trans rest.property shorter⟩

def isBlank (c : Char) : Bool := c = ' ' || c = '\n' || c = '\t' || c = '\r'

def skipBlank (s : List Char) : List Char := s.dropWhile isBlank

theorem length_skipBlank_le (s : List Char) : (skipBlank s).length ≤ s.length :=
  (List.dropWhile_sublist isBlank).length_le

def hexValue? (c : Char) : Option Nat :=
  if c.isDigit then some (c.toNat - '0'.toNat)
  else if 'a' ≤ c ∧ c ≤ 'f' then some (c.toNat - 'a'.toNat + 10)
  else if 'A' ≤ c ∧ c ≤ 'F' then some (c.toNat - 'A'.toNat + 10)
  else none

def hexValues? : List Char → Option Nat :=
  List.foldl (fun value c => do return (← value) * 16 + (← hexValue? c)) (some 0)

-- Four bytes are read at once. The text is too short if it has fewer.
def hexHalt (s : List Char) : Halt :=
  if (s.take 4).foldl (· + ·.utf8Size) 0 < 4 then .atEnd .endInString else ⟨.badEscape, s, 4⟩

def hexFour (s : List Char) : Except Halt (Nat × Rest s) :=
  match s with
  | a :: b :: c :: d :: rest =>
    match hexValues? [a, b, c, d] with
    | some value => .ok (value, ⟨rest, by simp only [List.length_cons]; omega⟩)
    | none => .error (hexHalt (a :: b :: c :: d :: rest))
  | s => .error (hexHalt s)

def isLeading (unit : Nat) : Bool := 0xd800 ≤ unit && unit ≤ 0xdbff

def isTrailing (unit : Nat) : Bool := 0xdc00 ≤ unit && unit ≤ 0xdfff

def surrogatePair (leading trailing : Nat) : Char :=
  .ofNat ((leading - 0xd800) * 0x400 + (trailing - 0xdc00) + 0x10000)

def trailingUnit (s : List Char) : Except Halt (Nat × Rest s) :=
  match s with
  | [] | ['\\'] => .error (.atEnd .endInString)
  | '\\' :: 'u' :: digits =>
    match hexFour digits with
    | .error halt => .error halt
    | .ok (unit, ⟨rest, shorter⟩) =>
      if isTrailing unit then .ok (unit, ⟨rest, by simp only [List.length_cons]; omega⟩)
      else .error (.before .loneSurrogate rest)
  | '\\' :: rest => .error (.upon .unpairedSurrogate rest)
  | s => .error (.upon .unpairedSurrogate s)

def codeEscape (s : List Char) : Except Halt (Char × Rest s) :=
  match hexFour s with
  | .error halt => .error halt
  | .ok (unit, ⟨rest, shorter⟩) =>
    if isTrailing unit then .error (.before .loneSurrogate rest)
    else if isLeading unit then
      match trailingUnit rest with
      | .error halt => .error halt
      | .ok (trailing, ⟨after, afterShorter⟩) =>
        .ok (surrogatePair unit trailing, ⟨after, by omega⟩)
    else .ok (.ofNat unit, ⟨rest, shorter⟩)

def shortEscape? : Char → Option Char
  | '"' => some '"'
  | '\\' => some '\\'
  | '/' => some '/'
  | 'b' => some '\x08'
  | 'f' => some '\x0c'
  | 'n' => some '\n'
  | 'r' => some '\r'
  | 't' => some '\t'
  | _ => none

def escaped (s : List Char) : Except Halt (Char × Rest s) :=
  match s with
  | [] => .error (.atEnd .endInString)
  | 'u' :: digits =>
    match codeEscape digits with
    | .error halt => .error halt
    | .ok (c, ⟨rest, shorter⟩) => .ok (c, ⟨rest, by simp only [List.length_cons]; omega⟩)
  | c :: rest =>
    match shortEscape? c with
    | some decoded => .ok (decoded, ⟨rest, by simp⟩)
    | none => .error (.upon .badEscape (c :: rest))

def stringBody (read s : List Char) : Except Halt (List Char × List Char) :=
  match s with
  | [] => .error (.atEnd .endInString)
  | c :: rest =>
    if c = '"' then .ok (read.reverse, rest)
    else if c = '\\' then
      match escaped rest with
      | .error halt => .error halt
      | .ok (c, ⟨after, _⟩) => stringBody (c :: read) after
    else if c.toNat < 0x20 then .error (.before .controlCharacter rest)
    else stringBody (c :: read) rest
termination_by s.length
decreasing_by
  · simp only [List.length_cons]
    omega
  · simp

theorem length_stringBody {read s text rest : List Char}
    (h : stringBody read s = .ok (text, rest)) : rest.length < s.length := by
  fun_induction stringBody read s with
  | case1 => exact absurd h (by simp)
  | case2 =>
    cases h
    simp
  | case3 => exact absurd h (by simp)
  | case4 read rest notQuote c after shorter found ih =>
    have := ih h
    simp only [List.length_cons]
    omega
  | case5 => exact absurd h (by simp)
  | case6 read c rest _ _ _ ih =>
    have := ih h
    simp only [List.length_cons]
    omega

-- An escape in a string that nobody looks at, after its backslash. Surrogates need no partner.
def skipEscape (s : List Char) : Except Halt (Rest s) :=
  match s with
  | [] => .error (.atEnd .endInString)
  | 'u' :: digits =>
    match hexFour digits with
    | .error halt => .error halt
    | .ok (_, ⟨rest, shorter⟩) => .ok ⟨rest, by simp only [List.length_cons]; omega⟩
  | c :: rest =>
    if (shortEscape? c).isSome then .ok ⟨rest, by simp⟩
    else .error (.upon .badEscape (c :: rest))

def skipString (s : List Char) : Except Halt (List Char) :=
  match s with
  | [] => .error (.atEnd .endInString)
  | c :: rest =>
    if c = '"' then .ok rest
    else if c = '\\' then
      match skipEscape rest with
      | .error halt => .error halt
      | .ok ⟨after, _⟩ => skipString after
    else if c.toNat < 0x20 then .error (.before .controlCharacter (c :: rest))
    else skipString rest
termination_by s.length
decreasing_by
  · simp only [List.length_cons]
    omega
  · simp

theorem length_skipString {s rest : List Char} (h : skipString s = .ok rest) :
    rest.length < s.length := by
  fun_induction skipString s with
  | case1 => exact absurd h (by simp)
  | case2 =>
    cases h
    simp
  | case3 => exact absurd h (by simp)
  | case4 rest notQuote after shorter found ih =>
    have := ih h
    simp only [List.length_cons]
    omega
  | case5 => exact absurd h (by simp)
  | case6 c rest _ _ _ ih =>
    have := ih h
    simp only [List.length_cons]
    omega

def literal : List Char → List Char → Except Halt (List Char)
  | [], s => .ok s
  | _ :: _, [] => .error (.atEnd .endInValue)
  | expected :: word, c :: s =>
    if c = expected then literal word s else .error (.upon .badLiteral (c :: s))

theorem length_literal {word s rest : List Char} (h : literal word s = .ok rest) :
    rest.length ≤ s.length := by
  fun_induction literal word s with
  | case1 =>
    cases h
    exact Nat.le_refl _
  | case2 => exact absurd h (by simp)
  | case3 word c s ih =>
    have := ih h
    simp only [List.length_cons]
    omega
  | case4 => exact absurd h (by simp)

def startsWithDigit (s : List Char) : Bool := s.head?.any Char.isDigit

def skipDigits (s : List Char) : List Char := s.dropWhile Char.isDigit

def isExponentMark (c : Char) : Bool := c = 'e' || c = 'E'

def digitsValue (digits : List Char) : Nat :=
  digits.foldl (fun value c => value * 10 + digitValue c) 0

def afterSign (s : List Char) : List Char :=
  if s.head? = some '-' ∨ s.head? = some '+' then s.drop 1 else s

def finishFloat (negative : Bool) (significand : Nat) (exponent : Int) (noticed rest : List Char) :
    Except Halt (Number × List Char) :=
  match Number.ofParts negative significand exponent with
  | some number => .ok (number, rest)
  | none => .error (.before .numberOutOfRange noticed)

def greatestExponent : Nat := 2147483647

def exponentEnd (value : Nat) : List Char → List Char
  | [] => []
  | c :: rest =>
    if c.isDigit then
      if greatestExponent < value * 10 + digitValue c then rest
      else exponentEnd (value * 10 + digitValue c) rest
    else c :: rest

def exponentPart (negative : Bool) (significand : Nat) (exponent : Int) (s : List Char) :
    Except Halt (Number × List Char) :=
  let digits := afterSign s
  if digits = [] then .error (.atEnd .endInValue)
  else if startsWithDigit digits then
    let size : Int := digitsValue (digits.takeWhile Char.isDigit)
    if s.head? = some '-' then
      finishFloat negative significand (exponent - size) (skipDigits digits) (skipDigits digits)
    else
      finishFloat negative significand (exponent + size) (exponentEnd 0 digits)
        (skipDigits digits)
  else .error (.upon .badNumber digits)

def exponentOrEnd (negative : Bool) (significand : Nat) (exponent : Int) (s : List Char) :
    Except Halt (Number × List Char) :=
  match s with
  | [] => finishFloat negative significand exponent [] []
  | c :: rest =>
    if isExponentMark c then exponentPart negative significand exponent rest
    else finishFloat negative significand exponent (c :: rest) (c :: rest)

def fractionPart (negative : Bool) (significand : Nat) (exponent : Int) (s : List Char) :
    Except Halt (Number × List Char) :=
  if startsWithDigit s then
    let (significand, rest) := absorb significand s
    exponentOrEnd negative significand (exponent - (s.length - rest.length : Nat))
      (skipDigits rest)
  else if s = [] then .error (.atEnd .endInValue)
  else .error (.upon .badNumber s)

def afterWhole (negative : Bool) (significand dropped : Nat) (s : List Char) :
    Except Halt (Number × List Char) :=
  match s with
  | '.' :: rest => fractionPart negative significand dropped rest
  | s =>
    if s.head?.any isExponentMark || dropped ≠ 0 then
      exponentOrEnd negative significand dropped s
    else
      match Number.ofWord negative significand with
      | some number => .ok (number, s)
      | none => .error (.before .numberOutOfRange s)

def number (negative : Bool) (s : List Char) : Except Halt (Number × List Char) :=
  match s with
  | [] => .error (.atEnd .endInValue)
  | '0' :: rest =>
    if startsWithDigit rest then .error (.upon .badNumber rest) else afterWhole negative 0 0 rest
  | c :: rest =>
    if c.isDigit then
      let (significand, rest) := absorb (digitValue c) rest
      afterWhole negative significand (rest.takeWhile Char.isDigit).length (skipDigits rest)
    else .error (.upon .badNumber (c :: rest))

def skipExponent (s : List Char) : Except Halt (List Char) :=
  if startsWithDigit (afterSign s) then .ok (skipDigits (afterSign s))
  else .error (.upon .badNumber (afterSign s))

def skipExponentOrEnd (s : List Char) : Except Halt (List Char) :=
  if s.head?.any isExponentMark then skipExponent (s.drop 1) else .ok s

def skipAfterWhole (s : List Char) : Except Halt (List Char) :=
  if s.head? = some '.' then
    if startsWithDigit (s.drop 1) then skipExponentOrEnd (skipDigits (s.drop 1))
    else .error (.upon .badNumber (s.drop 1))
  else skipExponentOrEnd s

def skipNumber (s : List Char) : Except Halt (List Char) :=
  match s with
  | [] => .error (.atEnd .badNumber)
  | c :: rest =>
    if c = '0' then
      if startsWithDigit rest then .error (.upon .badNumber rest) else skipAfterWhole rest
    else if c.isDigit then skipAfterWhole (skipDigits rest)
    else .error (.upon .badNumber (c :: rest))

theorem length_skipDigits_le (s : List Char) : (skipDigits s).length ≤ s.length :=
  (List.dropWhile_sublist Char.isDigit).length_le

theorem length_afterSign_le (s : List Char) : (afterSign s).length ≤ s.length := by
  unfold afterSign
  split <;> simp

theorem length_skipExponent {s rest : List Char} (h : skipExponent s = .ok rest) :
    rest.length ≤ s.length := by
  unfold skipExponent at h
  split at h
  · cases h
    exact Nat.le_trans (length_skipDigits_le _) (length_afterSign_le s)
  · exact absurd h (by simp)

theorem length_skipExponentOrEnd {s rest : List Char} (h : skipExponentOrEnd s = .ok rest) :
    rest.length ≤ s.length := by
  unfold skipExponentOrEnd at h
  split at h
  · exact Nat.le_trans (length_skipExponent h) (by simp)
  · cases h
    exact Nat.le_refl _

theorem length_skipAfterWhole {s rest : List Char} (h : skipAfterWhole s = .ok rest) :
    rest.length ≤ s.length := by
  unfold skipAfterWhole at h
  split at h
  · split at h
    · refine Nat.le_trans (length_skipExponentOrEnd h) ?_
      exact Nat.le_trans (length_skipDigits_le _) (by simp)
    · exact absurd h (by simp)
  · exact length_skipExponentOrEnd h

theorem length_skipNumber {s rest : List Char} (h : skipNumber s = .ok rest) :
    rest.length < s.length := by
  unfold skipNumber at h
  split at h
  · exact absurd h (by simp)
  · rename_i c tail
    split at h
    · split at h
      · exact absurd h (by simp)
      · have := length_skipAfterWhole h
        simp only [List.length_cons]
        omega
    · split at h
      · have := length_skipAfterWhole h
        have := length_skipDigits_le tail
        simp only [List.length_cons]
        omega
      · exact absurd h (by simp)

-- What a value, at its first character, halts a reader with that asked for `wanted`. The value
-- itself has to be well formed as far as it must be read to be named.
def mismatch (wanted : String) (s : List Char) : Halt :=
  match s with
  | [] => .atEnd .endInValue
  | 'n' :: rest => after rest "ull" .null
  | 't' :: rest => after rest "rue" (.boolean true)
  | 'f' :: rest => after rest "alse" (.boolean false)
  | '[' :: rest => .before (.wrongType .sequence wanted) ('[' :: rest)
  | '\x7b' :: rest => .before (.wrongType .map wanted) ('\x7b' :: rest)
  | '"' :: rest =>
    match stringBody [] rest with
    | .error halt => halt
    | .ok (text, after) => .before (.wrongType (.string (.ofList text)) wanted) after
  | '-' :: rest => ofNumber (number true rest)
  | c :: rest =>
    if c.isDigit then ofNumber (number false (c :: rest)) else .upon .noValue (c :: rest)
where
  after (rest : List Char) (word : String) (found : Found) : Halt :=
    match literal word.toList rest with
    | .error halt => halt
    | .ok after => .before (.wrongType found wanted) after
  ofNumber : Except Halt (Number × List Char) → Halt
    | .error halt => halt
    | .ok (number, after) => .before (.wrongType (.number number) wanted) after

end NatSpec.Json
