import NatSpec.Toml.Scalar
import NatSpec.Toml.Table

set_option autoImplicit false

namespace NatSpec.Toml

open Settings (Value Parser)

def arrayItems (item : Parser Value) (read : List Value) (s : List Char) :
    Option (List Value × List Char) :=
  match skipLines s with
  | ']' :: rest => some (read.reverse, rest)
  | start =>
    match item start with
    | none => none
    | some (value, rest) =>
      match skipLines rest with
      | ',' :: rest =>
        if rest.length < s.length then arrayItems item (value :: read) rest else none
      | ']' :: rest => some ((value :: read).reverse, rest)
      | _ => none
termination_by s.length

def keyValue (value : Parser Value) : Parser (List String × Value) := fun s => do
  let (keys, rest) ← key s
  match rest with
  | '=' :: rest =>
    let (value, rest) ← value (skipSpace rest)
    return ((keys, value), rest)
  | _ => none

def inlineMembers (value : Parser Value) (table : Table) (s : List Char) :
    Option (Table × List Char) :=
  match keyValue value s with
  | none => none
  | some ((keys, value'), rest) =>
    match setValue keys value' table with
    | none => none
    | some table =>
      match skipSpace rest with
      | ',' :: rest => if rest.length < s.length then inlineMembers value table rest else none
      | '\x7d' :: rest => some (table, rest)
      | _ => none
termination_by s.length

def value : Nat → Parser Value
  | 0, _ => none
  | depth + 1, s =>
    match s with
    | '[' :: rest =>
      if depth = 0 then none
      else (arrayItems (value depth) [] rest).map fun (items, rest) => (.list items, rest)
    | '\x7b' :: rest =>
      if depth = 0 then none
      else
        match skipSpace rest with
        | '\x7d' :: rest => some (.map [], rest)
        | start =>
          (inlineMembers (value depth) [] start).map fun (table, rest) =>
            (.map (membersToValue table), rest)
    | '"' :: _ | '\'' :: _ => (string s).map fun (text, rest) => (.string text, rest)
    | s => scalar s

def header (closing : List Char) (s : List Char) : Option (List String × List Char) := do
  let (keys, rest) ← key s
  if closing.isPrefixOf rest then return (keys, rest.drop closing.length) else none

def statement (draft : Draft) (s : List Char) : Option (Draft × List Char) :=
  match s with
  | '[' :: '[' :: rest => do
    let (keys, rest) ← header [']', ']'] rest
    let draft ← draft.openElement keys
    return (draft, rest)
  | '[' :: rest => do
    let (keys, rest) ← header [']'] rest
    let draft ← draft.openTable keys
    return (draft, rest)
  | s => do
    let ((keys, value), rest) ← keyValue (value depthLimit) s
    let draft ← draft.set keys value
    return (draft, rest)

def lines (draft : Draft) (s : List Char) : Option Draft :=
  match skipLines s with
  | [] => some draft
  | start =>
    match statement draft start with
    | none => none
    | some (draft, rest) =>
      match lineEnd? rest with
      | none => none
      | some rest => if rest.length < s.length then lines draft rest else none
termination_by s.length

def withoutMark : List Char → List Char
  | '\ufeff' :: rest => rest
  | s => s

def read (text : String) : Option (Dict Value) := do
  let draft ← lines .start (withoutMark text.toList)
  let root ← draft.close
  return membersToValue root

end NatSpec.Toml
