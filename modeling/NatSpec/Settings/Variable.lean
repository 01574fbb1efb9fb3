import NatSpec.Settings.Value
import NatSpec.Text.Blank

set_option autoImplicit false

namespace NatSpec.Settings

abbrev Parser (α : Type) := List Char → Option (α × List Char)

def isAsciiBlank (c : Char) : Bool :=
  c = ' ' || c = '\t' || c = '\n' || c = '\x0c' || c = '\r'

def skipAsciiBlank (s : List Char) : List Char := s.dropWhile isAsciiBlank

def isSeparator (c : Char) : Bool := c = ',' || c = '[' || c = ']' || c = '\x7b' || c = '\x7d'

def isKeyChar (c : Char) : Bool := c.isAlphanum || c = '_' || c = '-'

def hexDigit? (c : Char) : Option Nat :=
  if c.isDigit then some (c.toNat - '0'.toNat)
  else if 'a' ≤ c ∧ c ≤ 'f' then some (c.toNat - 'a'.toNat + 10)
  else if 'A' ≤ c ∧ c ≤ 'F' then some (c.toNat - 'A'.toNat + 10)
  else none

def codeChar (count : Nat) : Parser Char := fun s => do
  let digits ← (s.take count).mapM hexDigit?
  let code := digits.foldl (· * 16 + ·) 0
  if digits.length = count ∧ code.isValidChar then return (Char.ofNat code, s.drop count)
  else none

def escapedChar : Parser Char
  | '"' :: rest => some ('"', rest)
  | '\\' :: rest => some ('\\', rest)
  | 'b' :: rest => some ('\x08', rest)
  | 'f' :: rest => some ('\x0c', rest)
  | 'n' :: rest => some ('\n', rest)
  | 'r' :: rest => some ('\r', rest)
  | 't' :: rest => some ('\t', rest)
  | 'u' :: rest => codeChar 4 rest
  | 'U' :: rest => codeChar 8 rest
  | _ => none

def isPlain (c : Char) : Bool := c = '\t' || (0x20 ≤ c.toNat && c.toNat ≠ 0x7f)

def firstBytes (bytes : Nat) : List Char → List Char
  | [] => []
  | c :: rest => if c.utf8Size ≤ bytes then c :: firstBytes (bytes - c.utf8Size) rest else []

-- The text before the first escape of a string, its last character first. It keeps as many bytes as
-- it has characters, so that it stays whole only if it is ASCII.
def beforeEscape (read : List Char) : List Char := (firstBytes read.length read.reverse).reverse

def quotedBody (escaped : Bool) (read s : List Char) : Option (String × List Char) :=
  match s with
  | [] => none
  | c :: rest =>
    if c = '"' then some (.ofList read.reverse, rest)
    else if c = '\\' then
      match escapedChar rest with
      | none => none
      | some (c, after) =>
        if after.length < rest.length then
          quotedBody true (c :: if escaped then read else beforeEscape read) after
        else none
    else if isPlain c then quotedBody escaped (c :: read) rest
    else none
termination_by s.length

def bareFloat? (text : List Char) : Option FloatValue := do
  let negative := text.head? = some '-'
  let body := if negative || text.head? = some '+' then text.drop 1 else text
  let whole := body.takeWhile Char.isDigit
  let rest := body.dropWhile Char.isDigit
  let (fraction, rest) :=
    if rest.head? = some '.' then
      ((rest.drop 1).takeWhile Char.isDigit, (rest.drop 1).dropWhile Char.isDigit)
    else ([], rest)
  if whole = [] ∧ fraction = [] then none
  match rest with
  | [] => return .ofDigits negative whole fraction 0
  | mark :: exponent =>
    let minus := exponent.head? = some '-'
    let digits := if minus || exponent.head? = some '+' then exponent.drop 1 else exponent
    if (mark = 'e' ∨ mark = 'E') ∧ digits ≠ [] ∧ digits.all Char.isDigit then
      let size : Int := digitsValue digits
      return .ofDigits negative whole fraction (if minus then -size else size)
    else none

def bareInteger? (text : List Char) : Option Value :=
  let negative := text.head? = some '-'
  let digits := if negative || text.head? = some '+' then text.drop 1 else text
  if digits = [] ∨ ¬digits.all Char.isDigit then none
  else
    let value := digitsValue digits
    if negative then if value ≤ signedBound then some (.signed (-(value : Int))) else none
    else if value < unsignedBound then some (.unsigned value)
    else none

def bareValue (text : List Char) : Value :=
  match if text.contains '.' then bareFloat? text else none with
  | some value => .float value
  | none => (bareInteger? text).getD (.string (.ofList text))

def parts {α : Type} (part : Parser α) (closing : Char) (read : List α) (s : List Char) :
    Option (List α × List Char) :=
  if s.head? = some closing then some (read.reverse, s.drop 1)
  else
    match part s with
    | none => none
    | some (value, rest) =>
      if rest.length ≤ s.length then
        match _h : rest with
        | [] => none
        | c :: after =>
          if c = ',' then parts part closing (value :: read) after
          else if c = closing then some ((value :: read).reverse, after)
          else none
      else none
termination_by s.length
decreasing_by
  simp_all only [List.length_cons]
  omega

def mapKey : Parser String
  | '"' :: rest => quotedBody false [] rest
  | s =>
    if s.takeWhile isKeyChar = [] then none
    else some (.ofList (s.takeWhile isKeyChar), s.dropWhile isKeyChar)

def member (value : Parser Value) : Parser (String × Value) := fun s => do
  let (key, rest) ← mapKey (skipAsciiBlank s)
  match skipAsciiBlank rest with
  | '=' :: rest =>
    let (value, rest) ← value (skipAsciiBlank rest)
    return ((key, value), skipAsciiBlank rest)
  | _ => none

def keyed (members : List (String × Value)) : Dict Value :=
  members.foldl (fun dict (key, value) => Dict.insert key value dict) .empty

def valueOf (inner : Parser Value) : Parser Value
  | '\x7b' :: rest =>
    (parts (member inner) '\x7d' [] rest).map fun (members, rest) => (.map (keyed members), rest)
  | '[' :: rest => (parts inner ']' [] rest).map fun (items, rest) => (.list items, rest)
  | '"' :: rest => (quotedBody false [] rest).map fun (text, rest) => (.string text, rest)
  | '\'' :: c :: '\'' :: rest => some (.char c, rest)
  | '\'' :: _ => none
  | s =>
    if "true".toList.isPrefixOf s then some (.bool true, s.drop 4)
    else if "false".toList.isPrefixOf s then some (.bool false, s.drop 5)
    else
      some (bareValue (Text.trimChars (s.takeWhile (!isSeparator ·))),
        s.dropWhile (!isSeparator ·))

def nestedValue : Nat → Parser Value
  | 0, _ => none
  | depth + 1, s =>
    (valueOf (nestedValue depth) (skipAsciiBlank s)).map fun (value, rest) =>
      (value, skipAsciiBlank rest)

def Value.ofVariable (text : String) : Value :=
  match nestedValue (text.length + 1) text.toList with
  | some (value, []) => value
  | _ => .string text

end NatSpec.Settings
