import NatSpec.Contract
import NatSpec.Json.Written

set_option autoImplicit false

namespace NatSpec

open Json

def textMember? (key : String) (text : Option String) : List (String × List Char) :=
  text.toList.map fun text => (key, writtenString text)

def FunctionDecl.written (function : FunctionDecl) : List Char :=
  writtenRecord
    ([("name", writtenString function.name),
      ("constant", writtenBool function.constant),
      ("parameterNames", writtenStrings function.paramNames),
      ("parameterTypes", writtenStrings function.paramTypes),
      ("returnParameterNames", writtenStrings function.returnNames),
      ("returnParameterTypes", writtenStrings function.returnTypes)] ++
      textMember? "signature" (nonEmpty? (some function.signature)) ++
      textMember? "documentation" function.documentation)

def ConstructorDecl.written (constructor : ConstructorDecl) : List Char :=
  writtenRecord
    [("parameterNames", writtenStrings constructor.paramNames),
      ("parameterTypes", writtenStrings constructor.paramTypes)]

def EventParam.written (param : EventParam) : List Char :=
  writtenRecord
    [("name", writtenString param.name), ("type", writtenString param.type),
      ("indexed", writtenBool param.indexed)]

def EventDecl.written (event : EventDecl) : List Char :=
  writtenRecord
    [("name", writtenString event.name), ("anonymous", writtenBool event.anonymous),
      ("parameters", writtenArray (event.params.map EventParam.written))]

def MemberDecl.written (member : MemberDecl) : List Char :=
  writtenRecord [("name", writtenString member.name), ("type", writtenString member.type)]

def StructDecl.written (struct : StructDecl) : List Char :=
  writtenRecord
    [("name", writtenString struct.name),
      ("members", writtenArray (struct.members.map MemberDecl.written))]

def EnumDecl.written (enum : EnumDecl) : List Char :=
  writtenRecord [("name", writtenString enum.name), ("values", writtenStrings enum.values)]

namespace Contract

def written (contract : Contract) : List Char :=
  writtenRecord
    ([("name", writtenString contract.name), ("isLibrary", writtenBool contract.isLibrary)] ++
      textMember? "documentation" contract.documentation ++
      contract.constructor.toList.map (fun decl => ("constructor", decl.written)) ++
      [("functions", writtenArray (contract.functions.map FunctionDecl.written)),
        ("events", writtenArray (contract.events.map EventDecl.written)),
        ("structs", writtenArray (contract.structs.map StructDecl.written)),
        ("enums", writtenArray (contract.enums.map EnumDecl.written))])

def toJson (contract : Contract) : String := .ofList contract.written

end Contract

end NatSpec
