import NatSpec.Json.Number
import NatSpec.Text.Quoted

set_option autoImplicit false

namespace NatSpec.Json

inductive Found where
  | number (value : Number)
  | boolean (value : Bool)
  | null
  | string (text : String)
  | sequence
  | map
deriving DecidableEq, Repr

def Found.describe : Found → String
  | .number (.integer value) => "integer `" ++ toString value ++ "`"
  | .number (.float negative magnitude) =>
    "floating point `" ++ floatText negative magnitude ++ "`"
  | .boolean value => "boolean `" ++ (if value then "true" else "false") ++ "`"
  | .null => "null"
  | .string text => "string " ++ Text.quoted text
  | .sequence => "sequence"
  | .map => "map"

inductive ReadError where
  | endInValue
  | endInString
  | endInList
  | endInObject
  | noValue
  | badLiteral
  | noColon
  | noListComma
  | noObjectComma
  | keyNotString
  | trailingComma
  | trailingCharacters
  | badNumber
  | numberOutOfRange
  | badEscape
  | controlCharacter
  | loneSurrogate
  | unpairedSurrogate
  | wrongType (found : Found) (wanted : String)
  | wrongLength (length : Nat) (wanted : String)
  | unknownVariant (name wanted : String)
  | duplicateField (name : String)
  | missingField (name : String)
deriving DecidableEq, Repr

namespace ReadError

inductive Category where
  | eof
  | syntactic
  | data
deriving DecidableEq, Repr

def category : ReadError → Category
  | .endInValue | .endInString | .endInList | .endInObject => .eof
  | .wrongType _ _ | .wrongLength _ _ | .unknownVariant _ _ | .duplicateField _
  | .missingField _ => .data
  | _ => .syntactic

def message : ReadError → String
  | .endInValue => "EOF while parsing a value"
  | .endInString => "EOF while parsing a string"
  | .endInList => "EOF while parsing a list"
  | .endInObject => "EOF while parsing an object"
  | .noValue => "expected value"
  | .badLiteral => "expected ident"
  | .noColon => "expected `:`"
  | .noListComma => "expected `,` or `]`"
  | .noObjectComma => "expected `,` or `\x7d`"
  | .keyNotString => "key must be a string"
  | .trailingComma => "trailing comma"
  | .trailingCharacters => "trailing characters"
  | .badNumber => "invalid number"
  | .numberOutOfRange => "number out of range"
  | .badEscape => "invalid escape"
  | .controlCharacter => "control character (\\u0000-\\u001F) found while parsing a string"
  | .loneSurrogate => "lone leading surrogate in hex escape"
  | .unpairedSurrogate => "unexpected end of hex escape"
  | .wrongType found wanted => "invalid type: " ++ found.describe ++ ", expected " ++ wanted
  | .wrongLength length wanted =>
    "invalid length " ++ toString length ++ ", expected " ++ wanted
  | .unknownVariant name wanted => "unknown variant `" ++ name ++ "`, expected " ++ wanted
  | .duplicateField name => "duplicate field `" ++ name ++ "`"
  | .missingField name => "missing field `" ++ name ++ "`"

end ReadError

end NatSpec.Json
