import NatSpec.Json.Token

set_option autoImplicit false

namespace NatSpec.Json

inductive Bracket where
  | list
  | object
deriving DecidableEq, Repr

def Bracket.closing : Bracket → Char
  | .list => ']'
  | .object => '\x7d'

def Bracket.endError : Bracket → ReadError
  | .list => .endInList
  | .object => .endInObject

def Bracket.commaError : Bracket → ReadError
  | .list => .noListComma
  | .object => .noObjectComma

inductive Stage where
  | value
  | key
  | opened
  | closed
deriving DecidableEq, Repr

def Bracket.inside : Bracket → Stage
  | .list => .value
  | .object => .key

def Stage.weight : Stage → Nat
  | .opened => 1
  | _ => 0

def skipScalar (s : List Char) : Except Halt (List Char) :=
  match s with
  | [] => .error (.atEnd .endInValue)
  | 'n' :: rest => literal "ull".toList rest
  | 't' :: rest => literal "rue".toList rest
  | 'f' :: rest => literal "alse".toList rest
  | '"' :: rest => skipString rest
  | '-' :: rest => skipNumber rest
  | c :: rest =>
    if c.isDigit then skipNumber (c :: rest) else .error (.upon .noValue (c :: rest))

theorem length_skipScalar {s rest : List Char} (h : skipScalar s = .ok rest) :
    rest.length < s.length := by
  unfold skipScalar at h
  split at h
  · exact absurd h (by simp)
  · exact Nat.lt_succ_of_le (length_literal h)
  · exact Nat.lt_succ_of_le (length_literal h)
  · exact Nat.lt_succ_of_le (length_literal h)
  · exact Nat.lt_succ_of_lt (length_skipString h)
  · exact Nat.lt_succ_of_lt (length_skipNumber h)
  · split at h
    · exact length_skipNumber h
    · exact absurd h (by simp)

def skipKey (s : List Char) : Except Halt (List Char) :=
  match skipBlank s with
  | [] => .error (.atEnd .endInObject)
  | c :: name =>
    if c = '"' then
      match skipString name with
      | .error halt => .error halt
      | .ok after =>
        match skipBlank after with
        | [] => .error (.atEnd .endInObject)
        | c :: value => if c = ':' then .ok value else .error (.upon .noColon (c :: value))
    else .error (.upon .keyNotString (c :: name))

theorem length_skipKey {s rest : List Char} (h : skipKey s = .ok rest) :
    rest.length < s.length := by
  have blank := length_skipBlank_le s
  unfold skipKey at h
  split at h
  · exact absurd h (by simp)
  · rename_i c name found
    rw [found, List.length_cons] at blank
    split at h
    · split at h
      · exact absurd h (by simp)
      · rename_i after skipped
        have shorter := length_skipString skipped
        have blankAfter := length_skipBlank_le after
        split at h
        · exact absurd h (by simp)
        · rename_i c value colon
          rw [colon, List.length_cons] at blankAfter
          split at h
          · cases h
            omega
          · exact absurd h (by simp)
    · exact absurd h (by simp)

theorem shorter_of_skipBlank {s rest : List Char} {c : Char} (h : skipBlank s = c :: rest) :
    rest.length < s.length := by
  have blank := length_skipBlank_le s
  rw [h, List.length_cons] at blank
  omega

theorem weight_inside (bracket : Bracket) : bracket.inside.weight < Stage.opened.weight := by
  cases bracket <;> decide

def skipFrom (stage : Stage) (brackets : List Bracket) (s : List Char) :
    Except Halt (List Char) :=
  match stage, brackets with
  | .value, brackets =>
    match _h : skipBlank s with
    | [] => .error (.atEnd .endInValue)
    | '[' :: rest => skipFrom .opened (.list :: brackets) rest
    | '\x7b' :: rest => skipFrom .opened (.object :: brackets) rest
    | scalar =>
      match _skipped : skipScalar scalar with
      | .error halt => .error halt
      | .ok rest => skipFrom .closed brackets rest
  | .key, brackets =>
    match _skipped : skipKey s with
    | .error halt => .error halt
    | .ok rest => skipFrom .value brackets rest
  | .opened, [] => .ok s
  | .opened, bracket :: below =>
    match _h : skipBlank s with
    | [] => .error (.atEnd bracket.endError)
    | c :: rest =>
      if c = bracket.closing then skipFrom .closed below rest
      else skipFrom bracket.inside (bracket :: below) s
  | .closed, [] => .ok s
  | .closed, bracket :: below =>
    match _h : skipBlank s with
    | [] => .error (.atEnd bracket.endError)
    | c :: rest =>
      if c = bracket.closing then skipFrom .closed below rest
      else if c = ',' then skipFrom bracket.inside (bracket :: below) rest
      else .error (.upon bracket.commaError (c :: rest))
termination_by (s.length, stage.weight)
decreasing_by
  · exact Prod.Lex.left _ _ (shorter_of_skipBlank _h)
  · exact Prod.Lex.left _ _ (shorter_of_skipBlank _h)
  · refine Prod.Lex.left _ _ (Nat.lt_of_lt_of_le (length_skipScalar _skipped) ?_)
    exact _h ▸ length_skipBlank_le s
  · exact Prod.Lex.left _ _ (length_skipKey _skipped)
  · exact Prod.Lex.left _ _ (shorter_of_skipBlank _h)
  · exact Prod.Lex.right _ (weight_inside bracket)
  · exact Prod.Lex.left _ _ (shorter_of_skipBlank _h)
  · exact Prod.Lex.left _ _ (shorter_of_skipBlank _h)

theorem length_skipFrom {stage : Stage} {brackets : List Bracket} {s rest : List Char}
    (h : skipFrom stage brackets s = .ok rest) : rest.length ≤ s.length := by
  fun_induction skipFrom stage brackets s with
  | case1 => exact absurd h (by simp)
  | case2 _ _ tail found ih =>
    exact Nat.le_trans (ih h) (Nat.le_of_lt (shorter_of_skipBlank found))
  | case3 _ _ tail found ih =>
    exact Nat.le_trans (ih h) (Nat.le_of_lt (shorter_of_skipBlank found))
  | case4 => exact absurd h (by simp)
  | case5 s _ tail _ _ _ skipped ih =>
    have scalar := length_skipScalar skipped
    have blank := length_skipBlank_le s
    have tailBound := ih h
    omega
  | case6 => exact absurd h (by simp)
  | case7 _ _ tail skipped ih =>
    exact Nat.le_trans (ih h) (Nat.le_of_lt (length_skipKey skipped))
  | case8 =>
    cases h
    exact Nat.le_refl _
  | case9 => exact absurd h (by simp)
  | case10 _ _ _ tail found ih =>
    exact Nat.le_trans (ih h) (Nat.le_of_lt (shorter_of_skipBlank found))
  | case11 _ _ _ _ _ _ _ ih => exact ih h
  | case12 =>
    cases h
    exact Nat.le_refl _
  | case13 => exact absurd h (by simp)
  | case14 _ _ _ tail found ih =>
    exact Nat.le_trans (ih h) (Nat.le_of_lt (shorter_of_skipBlank found))
  | case15 _ _ _ tail found _ ih =>
    exact Nat.le_trans (ih h) (Nat.le_of_lt (shorter_of_skipBlank found))
  | case16 => exact absurd h (by simp)

def skipValue (s : List Char) : Except Halt (List Char) := skipFrom .value [] s

theorem length_skipValue {s rest : List Char} (h : skipValue s = .ok rest) :
    rest.length ≤ s.length :=
  length_skipFrom h

end NatSpec.Json
