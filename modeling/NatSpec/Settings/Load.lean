import NatSpec.Disk
import NatSpec.Settings
import NatSpec.Settings.Environment
import NatSpec.Settings.Wrapped
import NatSpec.Toml.Document

set_option autoImplicit false

namespace NatSpec.Settings

variable {m : Type → Type} [Monad m]

def placePath (place : Place) : String := "/" ++ "/".intercalate place

def upward : List String → List String
  | [] => [placePath []]
  | name :: above => placePath (name :: above).reverse :: upward above

def candidates (workDir : Place) (root : String) : List String :=
  let path := Path.join root fileName
  if Path.isAbsolute path then [path]
  else (upward workDir.reverse).map fun dir => Path.join dir path

def firstFile (disk : Disk m) : List String → m (Option String)
  | [] => pure none
  | path :: rest => do
    if ← disk.isFile path then return some path else firstFile disk rest

def shownPath (workDir : Place) (path : String) : String :=
  "/".intercalate (Path.relative (Path.names path) workDir)

def loadFile (disk : Disk m) (root : String) :
    m (Except LoadError (Option (String × Dict Value))) := do
  let workDir ← disk.workDir
  match ← firstFile disk (candidates workDir root) with
  | none => return .ok none
  | some path =>
    match ← disk.readText path with
    | .error error => return .error (.unreadable (shownPath workDir path) error)
    | .ok text =>
      match (Toml.read text).bind unwrappedFile? with
      | none => return .error (.malformed (shownPath workDir path))
      | some members => return .ok (some (shownPath workDir path, members))

def load (disk : Disk m) (env : Environment) (root : String) :
    m (Except LoadError Settings) := do
  match ← loadFile disk root with
  | .error error => return .error error
  | .ok file => return Layers.settings ⟨file, ofEnvironment env⟩

end NatSpec.Settings
