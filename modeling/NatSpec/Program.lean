import NatSpec.Command.Run
import NatSpec.CommandLine

set_option autoImplicit false

namespace NatSpec

structure Outcome where
  exitCode : Nat
  stdout : String
  stderr : String
deriving DecidableEq, Repr

namespace Outcome

def ofStop (env : Environment) (stop : CommandLine.Stop) : Outcome :=
  let text := stop.shownOn (.ofEnvironment env)
  if stop.exitCode = 0 then ⟨0, text, ""⟩ else ⟨stop.exitCode, "", text⟩

def ofResult : Except Report (List String) → Outcome
  | .ok lines => ⟨0, String.join (lines.map (· ++ "\n")), ""⟩
  | .error report => ⟨1, "", "Error: " ++ report.detail ++ "\n"⟩

end Outcome

def program {m : Type → Type} [Monad m] (disk : Disk m) (env : Environment)
    (arguments : List String) : m Outcome := do
  match CommandLine.read arguments with
  | .error stop => return .ofStop env stop
  | .ok command => return .ofResult (← (command.run disk env).run)

end NatSpec
