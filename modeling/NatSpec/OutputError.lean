import NatSpec.Comment.Tag

set_option autoImplicit false

namespace NatSpec

inductive OutputError where
  | malformedTag (text : String)
  | unknownTag (name : String)
  | illegalTag (tag : Tag) (owner : Owner)
  | undeclaredParam (param signature : String)
  | internal (text : String)
deriving DecidableEq, Repr

namespace OutputError

def unendedTag (rest : List Char) : OutputError :=
  .malformedTag ("end of tag `" ++ String.ofList rest ++ "` not found")

def unendedParamName (rest : List Char) : OutputError :=
  .malformedTag ("end of param name not found: `" ++ String.ofList rest ++ "`")

def sizeMismatch (names types : Nat) : OutputError :=
  .internal ("names and types vector size does not match: " ++ toString names ++ " names, " ++
    toString types ++ " types")

def message : OutputError → String
  | .malformedTag text => "malformed doc tag: " ++ text
  | .unknownTag name => "unknown doc tag `@" ++ name ++ "` encountered"
  | .illegalTag tag owner =>
    "@" ++ tag.name ++ " tag is not legal in a " ++ owner.name ++ " comment"
  | .undeclaredParam param signature =>
    "documented parameter \"" ++ param ++
      "\" not found in the parameter list of the function `" ++ signature ++ "`"
  | .internal text => "internal error: " ++ text

inductive Kind where
  | malformedTag
  | unknownTag
  | illegalTag
  | undeclaredParam
  | internal
deriving DecidableEq, Repr

def kind : OutputError → Kind
  | .malformedTag _ => .malformedTag
  | .unknownTag _ => .unknownTag
  | .illegalTag _ _ => .illegalTag
  | .undeclaredParam _ _ => .undeclaredParam
  | .internal _ => .internal

def Kind.blamesSource (kind : Kind) : Bool := kind != .internal

end OutputError

end NatSpec
