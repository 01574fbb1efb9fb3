import NatSpec.OutputError

set_option autoImplicit false

namespace NatSpec

def pairParams (names types : List String) : Except OutputError (List (String × String)) :=
  if names.length = types.length then .ok (names.zip types)
  else .error (.sizeMismatch names.length types.length)

def nonEmpty? (documentation : Option String) : Option String := documentation.filter (· ≠ "")

structure FunctionDecl where
  name : String := ""
  constant : Bool := false
  paramNames : List String := []
  paramTypes : List String := []
  returnNames : List String := []
  returnTypes : List String := []
  signature : String := ""
  documentation : Option String := none
deriving DecidableEq, Repr, Inhabited

namespace FunctionDecl

def named (name : String) : FunctionDecl := { name }

def addParam (type name : String) (function : FunctionDecl) : FunctionDecl :=
  { function with
    paramTypes := function.paramTypes ++ [type], paramNames := function.paramNames ++ [name] }

def addReturn (type name : String) (function : FunctionDecl) : FunctionDecl :=
  { function with
    returnTypes := function.returnTypes ++ [type], returnNames := function.returnNames ++ [name] }

def asConstant (function : FunctionDecl) : FunctionDecl := { function with constant := true }

def setSignature (signature : String) (function : FunctionDecl) : FunctionDecl :=
  { function with signature }

def setDocumentation (text : String) (function : FunctionDecl) : FunctionDecl :=
  { function with documentation := some text }

def comment? (function : FunctionDecl) : Option String := nonEmpty? function.documentation

def callSignature (function : FunctionDecl) : String :=
  if function.signature = "" then
    function.name ++ "(" ++ ",".intercalate function.paramTypes ++ ")"
  else function.signature

def params (function : FunctionDecl) : Except OutputError (List (String × String)) :=
  pairParams function.paramNames function.paramTypes

def returns (function : FunctionDecl) : Except OutputError (List (String × String)) :=
  pairParams function.returnNames function.returnTypes

end FunctionDecl

structure ConstructorDecl where
  paramNames : List String := []
  paramTypes : List String := []
deriving DecidableEq, Repr, Inhabited

namespace ConstructorDecl

def addParam (type name : String) (constructor : ConstructorDecl) : ConstructorDecl :=
  ⟨constructor.paramNames ++ [name], constructor.paramTypes ++ [type]⟩

def params (constructor : ConstructorDecl) : Except OutputError (List (String × String)) :=
  pairParams constructor.paramNames constructor.paramTypes

end ConstructorDecl

structure EventParam where
  name : String := ""
  type : String := ""
  indexed : Bool := false
deriving DecidableEq, Repr, Inhabited

structure EventDecl where
  name : String := ""
  anonymous : Bool := false
  params : List EventParam := []
deriving DecidableEq, Repr, Inhabited

namespace EventDecl

def named (name : String) : EventDecl := { name }

def asAnonymous (event : EventDecl) : EventDecl := { event with anonymous := true }

def addParam (type name : String) (indexed : Bool) (event : EventDecl) : EventDecl :=
  { event with params := event.params ++ [⟨name, type, indexed⟩] }

end EventDecl

structure MemberDecl where
  name : String := ""
  type : String := ""
deriving DecidableEq, Repr, Inhabited

structure StructDecl where
  name : String := ""
  members : List MemberDecl := []
deriving DecidableEq, Repr, Inhabited

namespace StructDecl

def named (name : String) : StructDecl := { name }

def addMember (type name : String) (struct : StructDecl) : StructDecl :=
  { struct with members := struct.members ++ [⟨name, type⟩] }

end StructDecl

structure EnumDecl where
  name : String := ""
  values : List String := []
deriving DecidableEq, Repr, Inhabited

structure Contract where
  name : String := ""
  isLibrary : Bool := false
  documentation : Option String := none
  constructor : Option ConstructorDecl := none
  functions : List FunctionDecl := []
  events : List EventDecl := []
  structs : List StructDecl := []
  enums : List EnumDecl := []
deriving DecidableEq, Repr, Inhabited

namespace Contract

def named (name : String) : Contract := { name }

def library (name : String) : Contract := { name, isLibrary := true }

def setDocumentation (text : String) (contract : Contract) : Contract :=
  { contract with documentation := some text }

def setConstructor (constructor : ConstructorDecl) (contract : Contract) : Contract :=
  { contract with constructor := some constructor }

def addFunction (function : FunctionDecl) (contract : Contract) : Contract :=
  { contract with functions := contract.functions ++ [function] }

def addEvent (event : EventDecl) (contract : Contract) : Contract :=
  { contract with events := contract.events ++ [event] }

def addStruct (struct : StructDecl) (contract : Contract) : Contract :=
  { contract with structs := contract.structs ++ [struct] }

def addEnum (enum : EnumDecl) (contract : Contract) : Contract :=
  { contract with enums := contract.enums ++ [enum] }

def keyword (contract : Contract) : String := if contract.isLibrary then "library" else "contract"

def comment? (contract : Contract) : Option String := nonEmpty? contract.documentation

end Contract

end NatSpec
