import NatSpec.Text.Unprintable

set_option autoImplicit false

namespace NatSpec.Text

def codePoint (c : Char) : List Char :=
  '\\' :: 'u' :: '\x7b' :: (Nat.toDigits 16 c.toNat ++ ['\x7d'])

def quotedChar (c : Char) : List Char :=
  if c = '\x00' then ['\\', '0']
  else if c = '\t' then ['\\', 't']
  else if c = '\r' then ['\\', 'r']
  else if c = '\n' then ['\\', 'n']
  else if c = '\\' || c = '"' then ['\\', c]
  else if unprintable c then codePoint c
  else [c]

def quoted (text : String) : String :=
  .ofList ('"' :: (text.toList.flatMap quotedChar ++ ['"']))

end NatSpec.Text
