import NatSpec.Toml.Text

set_option autoImplicit false

namespace NatSpec.Toml

open Settings (Value FloatValue Parser signedBound)

def digits? (isDigit : Char → Bool) : List Char → Option (List Char)
  | [] => none
  | [c] => if isDigit c then some [c] else none
  | c :: '_' :: rest => if isDigit c then (digits? isDigit rest).map (c :: ·) else none
  | c :: rest => if isDigit c then (digits? isDigit rest).map (c :: ·) else none

def wholeDigits? (token : List Char) : Option (List Char) :=
  match digits? Char.isDigit token with
  | some ('0' :: _ :: _) => none
  | digits => digits

def afterSign (token : List Char) : List Char :=
  if token.head? = some '-' ∨ token.head? = some '+' then token.drop 1 else token

def isNegative (token : List Char) : Bool := token.head? = some '-'

def digitsIn? (base : Nat) (token : List Char) : Option (List Nat) := do
  let digits ← digits? (fun c => (Settings.hexDigit? c).any (· < base)) token
  digits.mapM Settings.hexDigit?

def prefixed? (base : Nat) (token : List Char) : Option Int := do
  let value := (← digitsIn? base token).foldl (· * base + ·) 0
  if value < signedBound then some (value : Int) else none

def integer? : List Char → Option Int
  | '0' :: 'x' :: rest => prefixed? 16 rest
  | '0' :: 'o' :: rest => prefixed? 8 rest
  | '0' :: 'b' :: rest => prefixed? 2 rest
  | token => do
    let value : Int := Settings.digitsValue (← wholeDigits? (afterSign token))
    let value := if isNegative token then -value else value
    if -signedBound ≤ value ∧ value < signedBound then some value else none

def exponent? (token : List Char) : Option Int := do
  let size : Int := Settings.digitsValue (← digits? Char.isDigit (afterSign token))
  return if isNegative token then -size else size

def isExponentMark (c : Char) : Bool := c = 'e' || c = 'E'

def bounded? : FloatValue → Option FloatValue
  | .infinite false => none
  | value => some value

def float? (token : List Char) : Option FloatValue := do
  let negative := isNegative token
  let body := afterSign token
  if body = "inf".toList then return .infinite negative
  if body = "nan".toList then return .nan
  let mantissa := body.takeWhile (!isExponentMark ·)
  let exponent ← match body.dropWhile (!isExponentMark ·) with
    | [] => some none
    | _ :: rest => (exponent? rest).map some
  let whole ← wholeDigits? (mantissa.takeWhile (· ≠ '.'))
  let fraction ← match mantissa.dropWhile (· ≠ '.') with
    | [] => some none
    | _ :: rest => (digits? Char.isDigit rest).map some
  if exponent.isNone ∧ fraction.isNone then none
  bounded? (.ofDigits negative whole (fraction.getD []) (exponent.getD 0))

def fixed? (count low high : Nat) (token : List Char) : Option Nat :=
  let value := Settings.digitsValue token
  if token.length = count ∧ token.all Char.isDigit ∧ low ≤ value ∧ value ≤ high then some value
  else none

def isLeapYear (year : Nat) : Bool := year % 4 = 0 && (year % 100 ≠ 0 || year % 400 = 0)

def daysIn (year month : Nat) : Nat :=
  if month = 2 then if isLeapYear year then 29 else 28
  else if month = 4 ∨ month = 6 ∨ month = 9 ∨ month = 11 then 30
  else 31

def isDate (token : List Char) : Bool :=
  match fixed? 4 0 9999 (token.take 4), fixed? 2 1 12 ((token.drop 5).take 2) with
  | some year, some month =>
    token.length = 10 && token[4]? = some '-' && token[7]? = some '-' &&
      (fixed? 2 1 (daysIn year month) (token.drop 8)).isSome
  | _, _ => false

def isTime (token : List Char) : Bool :=
  (fixed? 2 0 23 (token.take 2)).isSome && token[2]? = some ':' &&
    (fixed? 2 0 59 ((token.drop 3).take 2)).isSome && token[5]? = some ':' &&
    (fixed? 2 0 60 ((token.drop 6).take 2)).isSome &&
    match token.drop 8 with
    | [] => true
    | '.' :: digits => digits ≠ [] && digits.all Char.isDigit
    | _ => false

def isOffset (token : List Char) : Bool :=
  match token with
  | ['Z'] | ['z'] => true
  | sign :: rest =>
    (sign = '+' || sign = '-') && (fixed? 2 0 23 (rest.take 2)).isSome && rest[2]? = some ':' &&
      (fixed? 2 0 59 (rest.drop 3)).isSome
  | [] => false

def isTimeChar (c : Char) : Bool := c.isDigit || c = ':' || c = '.'

def isZonedTime (token : List Char) : Bool :=
  isTime (token.takeWhile isTimeChar) &&
    (token.dropWhile isTimeChar = [] || isOffset (token.dropWhile isTimeChar))

def isDateTime (token : List Char) : Bool :=
  isDate (token.take 10) && (token[10]? = some 'T' || token[10]? = some 't') &&
    isZonedTime (token.drop 11)

def dateValue (token : List Char) : Value :=
  .map [("$__toml_private_datetime", .string (.ofList token))]

def isTokenChar (c : Char) : Bool :=
  c.isAlphanum || c = '_' || c = '+' || c = '-' || c = '.' || c = ':'

def tokenValue? (token : List Char) : Option Value :=
  if token = "true".toList then some (.bool true)
  else if token = "false".toList then some (.bool false)
  else if isDate token || isTime token || isDateTime token then some (dateValue token)
  else
    match integer? token with
    | some value => some (.signed value)
    | none => (float? token).map .float

def timeFollows (s : List Char) : Bool := s.head? = some ' ' && (s.drop 1).head?.any Char.isDigit

def scalar : Parser Value := fun s =>
  let token := s.takeWhile isTokenChar
  let rest := s.dropWhile isTokenChar
  if isDate token && timeFollows rest then
    let time := (rest.drop 1).takeWhile isTokenChar
    if isZonedTime time then
      some (dateValue (token ++ ' ' :: time), (rest.drop 1).dropWhile isTokenChar)
    else none
  else (tokenValue? token).map fun value => (value, rest)

end NatSpec.Toml
