import NatSpec.Path
import NatSpec.Settings.LoadError

set_option autoImplicit false

namespace NatSpec

structure Settings where
  out : String
  outputs : List Output
deriving DecidableEq, Repr

namespace Settings

def defaults : Settings := ⟨"out", Output.all⟩

def isDefault (settings : Settings) : Bool :=
  Path.parts settings.out = Path.parts defaults.out && settings.outputs = defaults.outputs

def filePath (settings : Settings) (contract : String) (output : Output) : String :=
  Path.join settings.out (contract ++ "." ++ output.extension)

def wrongType {α : Type} (found : Value) (expected : String) : Except Flaw α :=
  .error ⟨[], .wrongType found expected⟩

def readPath : Value → Except Flaw String
  | .string text => .ok text
  | .char c => .ok (.ofList [c])
  | value => wrongType value "path string"

-- An output, by its name or by a map whose first key is its name. No value that can be given to
-- that key is the empty one it would need.
def readOutput : Value → Except Flaw Output
  | .string name =>
    match Output.ofVariant? name with
    | some output => .ok output
    | none => .error ⟨[], .unknownOutput name⟩
  | .map [] => wrongType (.map []) "enum"
  | .map ((name, value) :: _) =>
    if (Output.ofVariant? name).isSome then .error ⟨[name], .wrongType value "unit"⟩
    else .error ⟨[name], .unknownOutput name⟩
  | value => wrongType value "enum DocumentationType"

def readItems : Nat → List Value → Except Flaw (List Output)
  | _, [] => .ok []
  | i, value :: rest => do
    let output ← (readOutput value).mapError (Flaw.under (toString i))
    let outputs ← readItems (i + 1) rest
    return output :: outputs

def readOutputs : Value → Except Flaw (List Output)
  | .list items => readItems 0 items
  | value => wrongType value "a sequence"

structure Layers where
  file : Option (String × Dict Value)
  environment : Dict Value

namespace Layers

def effective? (key : String) (layers : Layers) : Option (Source × Value) :=
  match layers.environment.get? key with
  | some value => some (.environment, value)
  | none =>
    match layers.file with
    | none => none
    | some (path, members) => (members.get? key).map fun value => (.file path, value)

def setting {α : Type} (layers : Layers) (key : String) (read : Value → Except Flaw α)
    (default : α) : Except LoadError α :=
  match layers.effective? key with
  | none => .ok default
  | some (source, value) =>
    (read value).mapError fun flaw => .invalid source (flaw.under key)

def settings (layers : Layers) : Except LoadError Settings := do
  let out ← layers.setting "out" readPath defaults.out
  let outputs ← layers.setting "outputs" readOutputs defaults.outputs
  return ⟨out, outputs⟩

end Layers

end Settings

end NatSpec
