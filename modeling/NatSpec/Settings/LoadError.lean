import NatSpec.OsError
import NatSpec.Output
import NatSpec.Settings.Value
import NatSpec.Text.Search

set_option autoImplicit false

namespace NatSpec.Settings

def fileName : String := "natdoc.toml"

def variablePrefix : String := "NATDOC_"

inductive Source where
  | file (path : String)
  | environment
deriving DecidableEq, Repr

namespace Source

def name : Source → String
  | .file _ => "TOML file"
  | .environment => "`" ++ variablePrefix ++ "` environment variable(s)"

def describe (source : Source) : String :=
  match source with
  | .file path => path ++ " " ++ source.name
  | .environment => source.name

def key (path : List String) : Source → String
  | .file _ => ".".intercalate ("default" :: path)
  | .environment => ".".intercalate (path.map String.toUpper)

end Source

inductive Mismatch where
  | wrongType (found : Value) (expected : String)
  | unknownOutput (name : String)
deriving Inhabited

def Mismatch.message : Mismatch → String
  | .wrongType found expected =>
    "invalid type: found " ++ found.describe ++ ", expected " ++ expected
  | .unknownOutput name =>
    "unknown variant: found `" ++ name ++ "`, expected `" ++ Output.variantNames ++ "`"

structure Flaw where
  path : List String
  mismatch : Mismatch
deriving Inhabited

def Flaw.under (step : String) (flaw : Flaw) : Flaw := { flaw with path := step :: flaw.path }

inductive Cause where
  | unreadable (error : OsError)
  | malformed
  | mismatch (mismatch : Mismatch)
deriving Inhabited

structure Fault where
  source : Option Source
  path : List String
  cause : Cause
deriving Inhabited

namespace Fault

def isFromFile (fault : Fault) : Bool :=
  fault.source.any fun source => Text.holds "TOML".toList source.name.toList

def whereabouts (fault : Fault) : String :=
  match fault.source with
  | none => ""
  | some source =>
    (if fault.path = [] then "" else " for key " ++ Text.quoted (source.key fault.path)) ++
      " in " ++ source.describe

-- What a TOML parser says, and all that follows it, is left out.
def detail (fault : Fault) : String :=
  match fault.cause with
  | .unreadable error => error.message ++ fault.whereabouts
  | .malformed => "TOML parse error"
  | .mismatch mismatch => mismatch.message ++ fault.whereabouts

def line (fault : Fault) : String :=
  (if fault.isFromFile then fileName else "natdoc config") ++ " error: " ++ fault.detail ++
    if fault.path = [] then "" else " for setting `" ++ ".".intercalate fault.path ++ "`"

end Fault

structure LoadError extends Fault where
  earlier : List Fault
deriving Inhabited

namespace LoadError

def faults (error : LoadError) : List Fault := error.toFault :: error.earlier

def keepUnseen (seen : List String) : List Fault → List Fault
  | [] => []
  | fault :: rest =>
    if fault.line ∈ seen then keepUnseen seen rest
    else fault :: keepUnseen (fault.line :: seen) rest

def errors (error : LoadError) : List Fault := keepUnseen [] error.faults

def heading : String := "failed to extract natdoc config:"

def message (error : LoadError) : String :=
  heading ++ String.join (error.errors.map fun fault => "\n" ++ fault.line)

def unreadable (path : String) (error : OsError) : LoadError :=
  ⟨⟨some (.file path), [], .unreadable error⟩, []⟩

def malformed (path : String) : LoadError := ⟨⟨some (.file path), [], .malformed⟩, []⟩

def invalid (source : Source) (flaw : Flaw) : LoadError :=
  ⟨⟨some source, flaw.path, .mismatch flaw.mismatch⟩, []⟩

end LoadError

end NatSpec.Settings
