import NatSpec.Settings.Variable

set_option autoImplicit false

namespace NatSpec.Toml

open Settings (Parser codeChar isPlain)

def isSpace (c : Char) : Bool := c = ' ' || c = '\t'

def skipSpace (s : List Char) : List Char := s.dropWhile isSpace

def lineBreak? : List Char → Option (List Char)
  | '\n' :: rest => some rest
  | '\r' :: '\n' :: rest => some rest
  | _ => none

def skipComment (s : List Char) : List Char :=
  if s.head? = some '#' then (s.drop 1).dropWhile isPlain else s

def lineEnd? (s : List Char) : Option (List Char) :=
  match skipComment (skipSpace s) with
  | [] => some []
  | rest => lineBreak? rest

def skipLines (s : List Char) : List Char :=
  match lineBreak? (skipComment (skipSpace s)) with
  | none => skipComment (skipSpace s)
  | some rest => if rest.length < s.length then skipLines rest else rest
termination_by s.length

def skipBlankLines (s : List Char) : List Char :=
  match lineBreak? (skipSpace s) with
  | none => skipSpace s
  | some rest => if rest.length < s.length then skipBlankLines rest else rest
termination_by s.length

def escapedChar : Parser Char
  | 'b' :: rest => some ('\x08', rest)
  | 't' :: rest => some ('\t', rest)
  | 'n' :: rest => some ('\n', rest)
  | 'f' :: rest => some ('\x0c', rest)
  | 'r' :: rest => some ('\r', rest)
  | '"' :: rest => some ('"', rest)
  | '\\' :: rest => some ('\\', rest)
  | 'u' :: rest => codeChar 4 rest
  | 'U' :: rest => codeChar 8 rest
  | _ => none

def basicBody (read s : List Char) : Option (String × List Char) :=
  match s with
  | [] => none
  | c :: rest =>
    if c = '"' then some (.ofList read.reverse, rest)
    else if c = '\\' then
      match escapedChar rest with
      | none => none
      | some (c, after) => if after.length < rest.length then basicBody (c :: read) after else none
    else if isPlain c then basicBody (c :: read) rest
    else none
termination_by s.length

def literalBody : Parser String := fun s =>
  match s.dropWhile fun c => isPlain c && c ≠ '\'' with
  | '\'' :: rest => some (.ofList (s.takeWhile fun c => isPlain c && c ≠ '\''), rest)
  | _ => none

-- How many of the quotes at `s`, at least three, belong to the text: those before the last three,
-- two at most.
def innerQuotes (quote : Char) (s : List Char) : Nat :=
  min 2 ((s.takeWhile (· = quote)).length - 3)

def multilineBody (quote : Char) (escapes : Bool) (read s : List Char) :
    Option (String × List Char) :=
  match s with
  | [] => none
  | c :: rest =>
    if [quote, quote, quote].isPrefixOf (c :: rest) then
      let inner := innerQuotes quote (c :: rest)
      some (.ofList (List.replicate inner quote ++ read).reverse, rest.drop (inner + 2))
    else if c = '\\' ∧ escapes = true then
      match lineBreak? (skipSpace rest) with
      | some after =>
        if (skipBlankLines after).length < rest.length then
          multilineBody quote escapes read (skipBlankLines after)
        else none
      | none =>
        match escapedChar rest with
        | none => none
        | some (c, after) =>
          if after.length < rest.length then multilineBody quote escapes (c :: read) after
          else none
    else
      match lineBreak? (c :: rest) with
      | some after =>
        if after.length ≤ rest.length then multilineBody quote escapes ('\n' :: read) after
        else none
      | none => if isPlain c then multilineBody quote escapes (c :: read) rest else none
termination_by s.length

def multiline (quote : Char) (escapes : Bool) : Parser String := fun s =>
  multilineBody quote escapes [] ((lineBreak? s).getD s)

def string : Parser String
  | '"' :: '"' :: '"' :: rest => multiline '"' true rest
  | '"' :: rest => basicBody [] rest
  | '\'' :: '\'' :: '\'' :: rest => multiline '\'' false rest
  | '\'' :: rest => literalBody rest
  | _ => none

def isBareKeyChar (c : Char) : Bool := c.isAlphanum || c = '_' || c = '-'

def simpleKey : Parser String
  | '"' :: rest => basicBody [] rest
  | '\'' :: rest => literalBody rest
  | s =>
    if s.takeWhile isBareKeyChar = [] then none
    else some (.ofList (s.takeWhile isBareKeyChar), s.dropWhile isBareKeyChar)

def dottedKey (s : List Char) : Option (List String × List Char) :=
  match simpleKey (skipSpace s) with
  | none => none
  | some (key, rest) =>
    match skipSpace rest with
    | '.' :: rest =>
      if rest.length < s.length then
        match dottedKey rest with
        | none => none
        | some (keys, rest) => some (key :: keys, rest)
      else none
    | rest => some ([key], rest)
termination_by s.length

def depthLimit : Nat := 80

def key : Parser (List String) := fun s =>
  match dottedKey s with
  | some (keys, rest) => if keys.length < depthLimit then some (keys, rest) else none
  | none => none

end NatSpec.Toml
