import NatSpec.CommandLine.Display
import NatSpec.Text.Fill
import NatSpec.Text.Line
import NatSpec.Text.Terminal

set_option autoImplicit false

namespace NatSpec.CommandLine

open Text

inductive Slot where
  | contract
  | output
  | out
  | outputs
  | root
deriving DecidableEq, Repr

def Slot.shown : Slot → String
  | .contract => "<CONTRACT>"
  | .output => "<OUTPUT>"
  | .out => "--out <PATH>"
  | .outputs => "--outputs <OUTPUTS>"
  | .root => "--root <PATH>"

inductive Stop where
  | help
  | version
  | noCommand
  | unknownCommand (name : String)
  | unexpected (argument : String)
  | needlessValue (value option : String)
  | missingValue (slot : Slot)
  | repeated (slot : Slot)
  | invalidValue (value : String) (slot : Slot) (reason : String)
  | missingParameters
deriving DecidableEq, Repr

namespace Stop

def exitCode : Stop → Nat
  | .help | .version => 0
  | _ => 2

def summary : String :=
  "Generate NatSpec documentation, JSON ABIs and Solidity interfaces from contract definitions"

def wrong (text : String) : String := Terminal.styled ["33"] text

def literal (text : String) : String := Terminal.styled ["1"] text

def fault : Stop → String
  | .help | .version | .noCommand => ""
  | .unknownCommand name => "unrecognized subcommand '" ++ wrong name ++ "'"
  | .unexpected argument => "unexpected argument '" ++ wrong argument ++ "' found"
  | .needlessValue value option =>
    "unexpected value '" ++ wrong value ++ "' for '" ++ literal option ++
      "' found; no more were expected"
  | .missingValue slot =>
    "a value is required for '" ++ wrong slot.shown ++ "' but none was supplied"
  | .repeated slot => "the argument '" ++ wrong slot.shown ++ "' cannot be used multiple times"
  | .invalidValue value slot reason =>
    "invalid value '" ++ wrong value ++ "' for '" ++ literal slot.shown ++ "': " ++ reason
  | .missingParameters => "the following required arguments were not provided:"

def text (width : Nat) : Stop → String
  | .help | .noCommand => filled width summary ++ "\n"
  | .version => "natdoc 0.1.0\n"
  | stop =>
    Terminal.styled ["1", "31"] "error:" ++ " " ++ stop.fault ++
      "\n\nFor more information, try '" ++ literal "--help" ++ "'.\n"

def message (stop : Stop) : String :=
  firstLine (Terminal.plain (stop.text Display.usualWidth))

def shownOn (display : Display) (stop : Stop) : String :=
  if display.hasStyles then stop.text display.width
  else Terminal.written (stop.text display.width)

end Stop

end NatSpec.CommandLine
