import NatSpec.Json.Written
import NatSpec.Tree

set_option autoImplicit false

namespace NatSpec

open Json

mutual

def Tree.compactChars : Tree → List Char
  | .object members => '\x7b' :: (commas (compactMembers members) ++ ['\x7d'])
  | .array items => '[' :: (commas (compactItems items) ++ [']'])
  | .string text => writtenString text
  | .bool value => writtenBool value

def compactItems : List Tree → List (List Char)
  | [] => []
  | item :: rest => item.compactChars :: compactItems rest

def compactMembers : List (String × Tree) → List (List Char)
  | [] => []
  | (key, value) :: rest => (writtenString key ++ ':' :: value.compactChars) :: compactMembers rest

end

def lineBreak (depth : Nat) : List Char := '\n' :: List.replicate (2 * depth) ' '

def bracketed (opening closing : Char) (depth : Nat) (parts : List (List Char)) : List Char :=
  if parts.isEmpty then [opening, closing]
  else opening :: (lineBreak (depth + 1) ++
    ((',' :: lineBreak (depth + 1)).intercalate parts ++ (lineBreak depth ++ [closing])))

mutual

def Tree.prettyChars (depth : Nat) : Tree → List Char
  | .object members => bracketed '\x7b' '\x7d' depth (prettyMembers (depth + 1) members)
  | .array items => bracketed '[' ']' depth (prettyItems (depth + 1) items)
  | .string text => writtenString text
  | .bool value => writtenBool value

def prettyItems (depth : Nat) : List Tree → List (List Char)
  | [] => []
  | item :: rest => item.prettyChars depth :: prettyItems depth rest

def prettyMembers (depth : Nat) : List (String × Tree) → List (List Char)
  | [] => []
  | (key, value) :: rest =>
    (writtenString key ++ ':' :: ' ' :: value.prettyChars depth) :: prettyMembers depth rest

end

def Tree.compact (tree : Tree) : String := .ofList tree.compactChars

def Tree.pretty (tree : Tree) : String := .ofList (tree.prettyChars 0)

end NatSpec
