import NatSpec.Text.Blank
import NatSpec.Text.Search

set_option autoImplicit false

namespace NatSpec

structure Report where
  messages : List String
deriving DecidableEq, Repr

namespace Report

def ofMessage (message : String) : Report := ⟨[message]⟩

def wrap (message : String) (report : Report) : Report := ⟨message :: report.messages⟩

def keepNew (last : String) : List String → List String
  | [] => []
  | message :: rest =>
    if Text.holds message.toList last.toList then keepNew last rest
    else message :: keepNew message rest

def dedup : List String → List String
  | [] => []
  | message :: rest => message :: keepNew message rest

def chain (report : Report) : List String := dedup (report.messages.map Text.trim)

def display (report : Report) : String := "; ".intercalate report.chain

def causeLines : List String → String
  | [] => ""
  | [cause] => "\n\nCaused by:\n- " ++ cause
  | causes =>
    "\n\nCaused by:" ++
      String.join (causes.zipIdx.map fun (cause, i) => "\n- #" ++ toString i ++ ": " ++ cause)

-- The plain text. `NATDOC_DEBUG` puts a verbose handler in its place, and the alternate form is that
-- of the error itself; both tell more of an error than its messages and are left out.
def detail (report : Report) : String :=
  match report.chain with
  | [] => ""
  | message :: causes => message ++ causeLines causes

end Report

end NatSpec
