import NatSpec.Command
import NatSpec.Contract.Reader
import NatSpec.Report
import NatSpec.Settings.Load

set_option autoImplicit false

namespace NatSpec

variable {m : Type → Type} [Monad m]

def Report.because (message cause : String) : Report := (ofMessage cause).wrap message

def Disk.step {α : Type} (message : String) (action : m (Except OsError α)) :
    ExceptT Report m α :=
  ExceptT.mk do
    let result ← action
    return result.mapError fun error => .because message error.message

def Contract.ofFileText (path text : String) : Except Report Contract :=
  (Contract.ofJson text).mapError fun error =>
    .because ("failed to parse contract definition " ++ path) error.message

def Contract.render (contract : Contract) (output : Output) : Except Report String :=
  (contract.document output).mapError fun error =>
    .because ("failed to generate " ++ output.name ++ " for `" ++ contract.name ++ "`")
      error.message

namespace Command

def loadContract (disk : Disk m) (path : String) : ExceptT Report m Contract := do
  let text ← Disk.step ("failed to read contract definition " ++ path) (disk.readText path)
  ExceptT.mk (pure (Contract.ofFileText path text))

def runInspect (disk : Disk m) (path : String) (output : Output) : ExceptT Report m String := do
  let contract ← loadContract disk path
  ExceptT.mk (pure (contract.render output))

end Command

namespace EmitRequest

def override (request : EmitRequest) (settings : Settings) : Settings :=
  { out := request.out.getD settings.out
    outputs := if request.outputs = [] then settings.outputs else request.outputs }

def settings (request : EmitRequest) (disk : Disk m) (env : Environment) :
    ExceptT Report m Settings :=
  ExceptT.mk do
    match ← Settings.load disk env (request.root.getD ".") with
    | .error error => return .error (.ofMessage error.message)
    | .ok settings => return .ok (request.override settings)

end EmitRequest

namespace Command

def writeAll (disk : Disk m) (settings : Settings) (contract : Contract) :
    List Output → ExceptT Report m (List String)
  | [] => return []
  | output :: rest => do
    let text ← ExceptT.mk (pure (contract.render output))
    let path := settings.filePath contract.name output
    Disk.step ("failed to write " ++ path) (disk.writeText path text)
    let paths ← writeAll disk settings contract rest
    return path :: paths

def runEmit (disk : Disk m) (env : Environment) (request : EmitRequest) :
    ExceptT Report m (List String) := do
  let settings ← request.settings disk env
  let contract ← loadContract disk request.contract
  Disk.step ("failed to create output directory " ++ settings.out) (disk.makeDirs settings.out)
  writeAll disk settings contract settings.outputs

def run (disk : Disk m) (env : Environment) :
    Command → ExceptT Report m (List String)
  | .inspect path output => return [← runInspect disk path output]
  | .emit request => runEmit disk env request

end Command

end NatSpec
