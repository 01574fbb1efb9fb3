import NatSpec.Program

set_option autoImplicit false

namespace NatSpec

def OsError.ofIO (error : IO.Error) : OsError :=
  let code? : Option UInt32 :=
    match error with
    | .noFileOrDirectory _ code _ => some code
    | .alreadyExists _ code _ => some code
    | .inappropriateType _ code _ => some code
    | .permissionDenied _ code _ => some code
    | .invalidArgument _ code _ => some code
    | .otherError code _ => some code
    | _ => none
  ((code?.map UInt32.toNat).bind ofCode?).getD (.other (toString error))

def attempt {α : Type} (action : IO α) : IO (Except OsError α) := do
  match ← action.toBaseIO with
  | .ok value => return .ok value
  | .error error => return .error (.ofIO error)

def isMachineFile (path : String) : IO Bool := do
  let here ← IO.currentDir
  match ← (here / path).metadata.toBaseIO with
  | .ok data => return data.type == .file
  | .error _ => return false

def readMachineFile (path : String) : IO (Except OsError String) := do
  match ← attempt (IO.FS.readBinFile path) with
  | .error error => return .error error
  | .ok bytes =>
    match String.fromUTF8? bytes with
    | some text => return .ok text
    | none => return .error .invalidText

def machine : Disk IO where
  workDir := return Path.names (← IO.currentDir).toString
  isFile := isMachineFile
  readText := readMachineFile
  makeDirs path := attempt (IO.FS.createDirAll path)
  writeText path text := attempt (IO.FS.writeFile path text)

def machineEnvironment : IO Environment := do
  match ← readMachineFile "/proc/self/environ" with
  | .ok block => return Settings.environmentOf block
  | .error _ => return []

end NatSpec

def main (arguments : List String) : IO UInt32 := do
  let env ← NatSpec.machineEnvironment
  let outcome ← NatSpec.program NatSpec.machine env arguments
  (← IO.getStdout).putStr outcome.stdout
  (← IO.getStderr).putStr outcome.stderr
  return outcome.exitCode.toUInt32
