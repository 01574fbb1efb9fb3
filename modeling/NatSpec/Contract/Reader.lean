import NatSpec.Contract
import NatSpec.Json.Reader

set_option autoImplicit false

namespace NatSpec

open Json

def requiredField {α β : Type} (name : String) (reader : Reader β) (set : β → α → α) : Member α :=
  ⟨name, true, reader.map set⟩

def optionalField {α β : Type} (name : String) (reader : Reader β) (set : β → α → α) : Member α :=
  ⟨name, false, reader.map set⟩

def FunctionDecl.shape : Shape FunctionDecl where
  name := "FunctionDefinition"
  empty := {}
  fields :=
    [requiredField "name" .string fun name decl => { decl with name },
      optionalField "constant" .bool fun constant decl => { decl with constant },
      optionalField "parameterNames" (.list .string) fun paramNames decl =>
        { decl with paramNames },
      optionalField "parameterTypes" (.list .string) fun paramTypes decl =>
        { decl with paramTypes },
      optionalField "returnParameterNames" (.list .string) fun returnNames decl =>
        { decl with returnNames },
      optionalField "returnParameterTypes" (.list .string) fun returnTypes decl =>
        { decl with returnTypes },
      optionalField "signature" .string fun signature decl => { decl with signature },
      optionalField "documentation" (.nullable .string) fun documentation decl =>
        { decl with documentation }]

def ConstructorDecl.shape : Shape ConstructorDecl where
  name := "ConstructorDefinition"
  empty := {}
  fields :=
    [optionalField "parameterNames" (.list .string) fun paramNames decl => { decl with paramNames },
      optionalField "parameterTypes" (.list .string) fun paramTypes decl =>
        { decl with paramTypes }]

def EventParam.shape : Shape EventParam where
  name := "EventParameter"
  empty := {}
  fields :=
    [requiredField "name" .string fun name param => { param with name },
      requiredField "type" .string fun type param => { param with type },
      optionalField "indexed" .bool fun indexed param => { param with indexed }]

def EventDecl.shape : Shape EventDecl where
  name := "EventDefinition"
  empty := {}
  fields :=
    [requiredField "name" .string fun name decl => { decl with name },
      optionalField "anonymous" .bool fun anonymous decl => { decl with anonymous },
      optionalField "parameters" (.list EventParam.shape.reader) fun params decl =>
        { decl with params }]

def MemberDecl.shape : Shape MemberDecl where
  name := "StructMember"
  empty := {}
  fields :=
    [requiredField "name" .string fun name member => { member with name },
      requiredField "type" .string fun type member => { member with type }]

def StructDecl.shape : Shape StructDecl where
  name := "StructDefinition"
  empty := {}
  fields :=
    [requiredField "name" .string fun name decl => { decl with name },
      optionalField "members" (.list MemberDecl.shape.reader) fun members decl =>
        { decl with members }]

def EnumDecl.shape : Shape EnumDecl where
  name := "EnumDefinition"
  empty := {}
  fields :=
    [requiredField "name" .string fun name decl => { decl with name },
      optionalField "values" (.list .string) fun values decl => { decl with values }]

namespace Contract

def shape : Shape Contract where
  name := "ContractDefinition"
  empty := {}
  fields :=
    [requiredField "name" .string fun name contract => { contract with name },
      optionalField "isLibrary" .bool fun isLibrary contract => { contract with isLibrary },
      optionalField "documentation" (.nullable .string) fun documentation contract =>
        { contract with documentation },
      optionalField "constructor" (.nullable ConstructorDecl.shape.reader)
        fun constructor contract => { contract with constructor },
      optionalField "functions" (.list FunctionDecl.shape.reader) fun functions contract =>
        { contract with functions },
      optionalField "events" (.list EventDecl.shape.reader) fun events contract =>
        { contract with events },
      optionalField "structs" (.list StructDecl.shape.reader) fun structs contract =>
        { contract with structs },
      optionalField "enums" (.list EnumDecl.shape.reader) fun enums contract =>
        { contract with enums }]

def ofJson (text : String) : Except ReadFailure Contract := Json.read shape.reader text

end Contract

end NatSpec
