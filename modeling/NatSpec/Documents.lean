import NatSpec.Comment.Scan
import NatSpec.Contract
import NatSpec.Tree.Layout

set_option autoImplicit false

namespace NatSpec

open Comment

def Dict.insertText (key text : String) (object : Dict Tree) : Dict Tree :=
  if text = "" then object else object.insert key (.string text)

def userMethods : List FunctionDecl → Fields → Dict Tree → Except OutputError (Dict Tree)
  | [], _, methods => .ok methods
  | function :: rest, fields, methods =>
    match function.comment? with
    | none => userMethods rest fields methods
    | some comment =>
      match collect comment .function fields.clearUser with
      | .error error => .error error
      | .ok fields =>
        if fields.notice = "" then userMethods rest fields methods
        else
          userMethods rest fields (methods.insert function.callSignature
            (.object (Dict.empty.insert "notice" (.string fields.notice))))

def paramRecord (function : FunctionDecl) :
    List (String × String) → Dict Tree → Except OutputError (Dict Tree)
  | [], record => .ok record
  | (name, description) :: rest, record =>
    if name ∈ function.paramNames then
      paramRecord function rest (record.insert name (.string description))
    else .error (.undeclaredParam name function.callSignature)

def methodRecord (function : FunctionDecl) (fields : Fields) : Except OutputError (Dict Tree) := do
  let params ← paramRecord function fields.params Dict.empty
  let record := Dict.empty.insertText "details" fields.dev |>.insertText "author" fields.author
  let record := if params.isEmpty then record else record.insert "params" (.object params)
  return record.insertText "return" fields.returns

def devMethods : List FunctionDecl → Fields → Dict Tree → Except OutputError (Dict Tree)
  | [], _, methods => .ok methods
  | function :: rest, fields, methods =>
    match function.comment? with
    | none => devMethods rest fields methods
    | some comment =>
      match collect comment .function fields.clearDev with
      | .error error => .error error
      | .ok fields =>
        match methodRecord function fields with
        | .error error => .error error
        | .ok record =>
          if record.isEmpty then devMethods rest fields methods
          else
            devMethods rest fields (methods.insert function.callSignature (.object record))

namespace Contract

def userDoc (contract : Contract) : Except OutputError String := do
  let methods ← userMethods contract.functions {} Dict.empty
  return (Tree.object (Dict.empty.insert "methods" (.object methods))).pretty

def ownFields (contract : Contract) : Except OutputError Fields :=
  match contract.comment? with
  | none => .ok {}
  | some comment => collect comment .contract (Fields.clearContract {})

def devDoc (contract : Contract) : Except OutputError String := do
  let fields ← contract.ownFields
  let document :=
    Dict.empty.insertText "author" fields.contractAuthor |>.insertText "title" fields.title
  let methods ← devMethods contract.functions fields Dict.empty
  return (Tree.object (document.insert "methods" (.object methods))).pretty

end Contract

end NatSpec
