import NatSpec.Dict

set_option autoImplicit false

namespace NatSpec

inductive Tree where
  | object (members : List (String × Tree))
  | array (items : List Tree)
  | string (text : String)
  | bool (value : Bool)
deriving Inhabited

namespace Tree

def object? : Tree → Option (Dict Tree)
  | .object members => some members
  | _ => none

def array? : Tree → Option (List Tree)
  | .array items => some items
  | _ => none

def string? : Tree → Option String
  | .string text => some text
  | _ => none

def bool? : Tree → Option Bool
  | .bool value => some value
  | _ => none

def get? (tree : Tree) (key : String) : Option Tree := tree.object?.bind (Dict.get? key)

def find? (tree : Tree) : List String → Option Tree
  | [] => some tree
  | key :: rest => (tree.get? key).bind (find? · rest)

@[simp] theorem get?_object (members : Dict Tree) (key : String) :
    (Tree.object members).get? key = members.get? key := rfl

end Tree

end NatSpec
