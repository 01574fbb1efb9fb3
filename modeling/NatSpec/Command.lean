import NatSpec.Output

set_option autoImplicit false

namespace NatSpec

structure EmitRequest where
  contract : String
  out : Option String := none
  outputs : List Output := []
  root : Option String := none
deriving DecidableEq, Repr

inductive Command where
  | inspect (contract : String) (output : Output)
  | emit (request : EmitRequest)
deriving DecidableEq, Repr

end NatSpec
