import NatSpec.Abi
import NatSpec.Documents
import NatSpec.Interface

set_option autoImplicit false

namespace NatSpec

inductive Output where
  | userDoc
  | devDoc
  | abi
  | interface
deriving DecidableEq, Repr

namespace Output

def all : List Output := [.abi, .interface, .userDoc, .devDoc]

def name : Output → String
  | .userDoc => "userdoc"
  | .devDoc => "devdoc"
  | .abi => "abi"
  | .interface => "interface"

def extension : Output → String
  | .userDoc => "docuser"
  | .devDoc => "docdev"
  | .abi => "abi"
  | .interface => "sol"

def ofName? : String → Option Output
  | "userdoc" | "userDoc" | "user-doc" => some .userDoc
  | "devdoc" | "devDoc" | "dev-doc" => some .devDoc
  | "abi" | "abi-interface" => some .abi
  | "interface" | "sol" | "solidity-interface" => some .interface
  | _ => none

def unknownMessage (name : String) : String := "unknown documentation type: " ++ name

def variants : List (String × Output) :=
  [("user-doc", .userDoc), ("userDoc", .userDoc), ("userdoc", .userDoc),
    ("dev-doc", .devDoc), ("devDoc", .devDoc), ("devdoc", .devDoc),
    ("abi", .abi), ("abi-interface", .abi),
    ("interface", .interface), ("sol", .interface), ("solidity-interface", .interface)]

def ofVariant? (name : String) : Option Output := variants.lookup name

def variantNames : String :=
  "one of " ++ ", ".intercalate (variants.map fun (name, _) => "`" ++ name ++ "`")

theorem ofName?_name (output : Output) : ofName? output.name = some output := by
  cases output <;> rfl

theorem mem_all (output : Output) : output ∈ all := by
  cases output <;> decide

end Output

def Contract.document (contract : Contract) : Output → Except OutputError String
  | .userDoc => contract.userDoc
  | .devDoc => contract.devDoc
  | .abi => contract.abi
  | .interface => contract.interface

end NatSpec
