import NatSpec.Contract
import NatSpec.Tree.Layout

set_option autoImplicit false

namespace NatSpec

def abiParam (param : String × String) : Tree :=
  .object (Dict.empty.insert "name" (.string param.1) |>.insert "type" (.string param.2))

def abiParams (params : List (String × String)) : Tree := .array (params.map abiParam)

def FunctionDecl.abiItem (function : FunctionDecl) : Except OutputError Tree := do
  let params ← function.params
  let returns ← function.returns
  return .object
    (Dict.empty.insert "type" (.string "function")
      |>.insert "name" (.string function.name)
      |>.insert "constant" (.bool function.constant)
      |>.insert "inputs" (abiParams params)
      |>.insert "outputs" (abiParams returns))

def ConstructorDecl.abiItem (constructor : ConstructorDecl) : Except OutputError Tree := do
  let params ← constructor.params
  return .object
    (Dict.empty.insert "type" (.string "constructor") |>.insert "inputs" (abiParams params))

def EventParam.abiItem (param : EventParam) : Tree :=
  .object
    (Dict.empty.insert "name" (.string param.name)
      |>.insert "type" (.string param.type)
      |>.insert "indexed" (.bool param.indexed))

def EventDecl.abiItem (event : EventDecl) : Tree :=
  .object
    (Dict.empty.insert "type" (.string "event")
      |>.insert "name" (.string event.name)
      |>.insert "anonymous" (.bool event.anonymous)
      |>.insert "inputs" (.array (event.params.map EventParam.abiItem)))

namespace Contract

def abiItems (contract : Contract) : Except OutputError (List Tree) := do
  let functions ← contract.functions.mapM FunctionDecl.abiItem
  let constructors ← contract.constructor.toList.mapM ConstructorDecl.abiItem
  return functions ++ constructors ++ contract.events.map EventDecl.abiItem

def abi (contract : Contract) : Except OutputError String := do
  let entries ← contract.abiItems
  return (Tree.array entries).compact

end Contract

end NatSpec
