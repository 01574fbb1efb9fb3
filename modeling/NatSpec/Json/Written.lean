set_option autoImplicit false

namespace NatSpec.Json

def hexDigit (n : Nat) : Char := Nat.digitChar (n % 16)

def escapeChar (c : Char) : List Char :=
  if c = '"' then ['\\', '"']
  else if c = '\\' then ['\\', '\\']
  else if c = '\x08' then ['\\', 'b']
  else if c = '\x0c' then ['\\', 'f']
  else if c = '\n' then ['\\', 'n']
  else if c = '\r' then ['\\', 'r']
  else if c = '\t' then ['\\', 't']
  else if c.toNat < 0x20 then
    ['\\', 'u', '0', '0', hexDigit (c.toNat / 16), hexDigit c.toNat]
  else [c]

def escape (text : List Char) : List Char := text.flatMap escapeChar

def writtenString (text : String) : List Char := '"' :: (escape text.toList ++ ['"'])

def writtenBool (value : Bool) : List Char := if value then "true".toList else "false".toList

def commas (parts : List (List Char)) : List Char := [','].intercalate parts

def writtenArray (items : List (List Char)) : List Char := '[' :: (commas items ++ [']'])

def writtenMember (member : String × List Char) : List Char :=
  writtenString member.1 ++ ':' :: member.2

def writtenRecord (members : List (String × List Char)) : List Char :=
  '\x7b' :: (commas (members.map writtenMember) ++ ['\x7d'])

def writtenStrings (texts : List String) : List Char := writtenArray (texts.map writtenString)

@[simp] theorem escape_nil : escape [] = [] := rfl

@[simp] theorem escape_cons (c : Char) (text : List Char) :
    escape (c :: text) = escapeChar c ++ escape text := rfl

@[simp] theorem commas_nil : commas [] = [] := rfl

@[simp] theorem commas_singleton (part : List Char) : commas [part] = part := by
  simp [commas]

@[simp] theorem commas_cons_cons (first second : List Char) (rest : List (List Char)) :
    commas (first :: second :: rest) = first ++ ',' :: commas (second :: rest) := by
  simp [commas]

theorem commas_cons (part : List Char) (parts : List (List Char)) :
    commas (part :: parts) = part ++ parts.flatMap (',' :: ·) := by
  induction parts generalizing part with
  | nil => rw [commas_singleton, List.flatMap_nil, List.append_nil]
  | cons next rest ih => rw [commas_cons_cons, ih, List.flatMap_cons, List.cons_append]

end NatSpec.Json
