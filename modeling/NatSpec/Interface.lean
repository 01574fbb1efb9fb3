import NatSpec.Contract

set_option autoImplicit false

namespace NatSpec

structure InterfaceText where
  chars : List Char

namespace InterfaceText

def opened (keyword name : String) : InterfaceText :=
  ⟨keyword.toList ++ ' ' :: (name.toList ++ ['\x7b'])⟩

def write (piece : List Char) (text : InterfaceText) : InterfaceText := ⟨text.chars ++ piece⟩

def structPiece (struct : StructDecl) : List Char :=
  "struct ".toList ++ struct.name.toList ++ '\x7b' ::
    (struct.members.flatMap (fun member =>
      member.type.toList ++ ' ' :: (member.name.toList ++ [';'])) ++ ['\x7d'])

def enumPiece (enum : EnumDecl) : List Char :=
  "enum ".toList ++ enum.name.toList ++ '\x7b' ::
    ([','].intercalate (enum.values.map String.toList) ++ ['\x7d'])

def paramsPiece (params : List (String × String)) : List Char :=
  '(' :: ([','].intercalate (params.map fun (name, type) =>
    type.toList ++ ' ' :: name.toList) ++ [')'])

def struct (decl : StructDecl) (text : InterfaceText) : InterfaceText :=
  text.write (structPiece decl)

def enum (decl : EnumDecl) (text : InterfaceText) : InterfaceText := text.write (enumPiece decl)

def trimSpace (text : InterfaceText) : InterfaceText :=
  if text.chars.getLast? = some ' ' then ⟨text.chars.dropLast⟩ else text

def function (name : String) (params : List (String × String)) (constant : Bool)
    (returns : List (String × String)) (text : InterfaceText) : InterfaceText :=
  let text := text.write ("function ".toList ++ name.toList ++ paramsPiece params)
  let text := if constant then text.write "constant ".toList else text
  let text :=
    if returns.isEmpty then text.trimSpace
    else text.write ("returns".toList ++ paramsPiece returns)
  text.write [';']

def closed (text : InterfaceText) : String := .ofList (text.write ['\x7d']).chars

end InterfaceText

def FunctionDecl.writeInterface (text : InterfaceText) (function : FunctionDecl) :
    Except OutputError InterfaceText := do
  let params ← function.params
  let returns ← function.returns
  return text.function function.name params function.constant returns

namespace Contract

def interfaceHead (contract : Contract) : InterfaceText :=
  let text := .opened contract.keyword contract.name
  if contract.isLibrary then
    contract.enums.foldl (fun text decl => text.enum decl)
      (contract.structs.foldl (fun text decl => text.struct decl) text)
  else text

def interface (contract : Contract) : Except OutputError String := do
  let text ← match contract.constructor with
    | none => pure contract.interfaceHead
    | some constructor => do
      let params ← constructor.params
      pure (contract.interfaceHead.function contract.name params false [])
  let text ← contract.functions.foldlM FunctionDecl.writeInterface text
  return text.closed

end Contract

end NatSpec
