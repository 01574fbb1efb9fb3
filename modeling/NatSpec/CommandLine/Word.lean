set_option autoImplicit false

namespace NatSpec.CommandLine

inductive Word where
  | escape
  | long (name : String) (value : Option String)
  | short (letter : Char) (rest : List Char)
  | plain (text : String)
deriving DecidableEq, Repr

def Word.ofChars : List Char → Word
  | ['-', '-'] => .escape
  | '-' :: '-' :: chars =>
    .long (.ofList (chars.takeWhile (· ≠ '=')))
      (if chars.contains '=' then some (.ofList ((chars.dropWhile (· ≠ '=')).drop 1)) else none)
  | '-' :: letter :: rest => .short letter rest
  | chars => .plain (.ofList chars)

def Word.ofText (text : String) : Word := ofChars text.toList

def attached? : List Char → Option String
  | [] => none
  | '=' :: rest => some (.ofList rest)
  | rest => some (.ofList rest)

end NatSpec.CommandLine
