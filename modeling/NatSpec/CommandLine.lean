import NatSpec.Command
import NatSpec.CommandLine.Stop
import NatSpec.CommandLine.Word

set_option autoImplicit false

namespace NatSpec.CommandLine

structure Given where
  contract : Option String := none
  output : Option Output := none
  out : Option String := none
  outputs : List Output := []
  root : Option String := none
deriving DecidableEq, Repr

def checkPath (slot : Slot) (text : String) : Except Stop String :=
  if text = "" then .error (.missingValue slot) else .ok text

def checkOutput (slot : Slot) (text : String) : Except Stop Output :=
  match Output.ofName? text with
  | some output => .ok output
  | none => .error (.invalidValue text slot (Output.unknownMessage text))

def betweenCommas : List Char → List (List Char)
  | [] => [[]]
  | c :: rest =>
    match c, betweenCommas rest with
    | ',', parts => [] :: parts
    | c, first :: others => (c :: first) :: others
    | c, [] => [[c]]

def checkOutputs (slot : Slot) (text : String) : Except Stop (List Output) :=
  (betweenCommas text.toList).mapM fun name => checkOutput slot (.ofList name)

def Given.set (slot : Slot) (text : String) (given : Given) : Except Stop Given :=
  match slot with
  | .contract => return { given with contract := ← checkPath slot text }
  | .output => return { given with output := ← checkOutput slot text }
  | .outputs => return { given with outputs := given.outputs ++ (← checkOutputs slot text) }
  | .out =>
    if given.out.isSome then .error (.repeated slot)
    else return { given with out := ← checkPath slot text }
  | .root =>
    if given.root.isSome then .error (.repeated slot)
    else return { given with root := ← checkPath slot text }

structure Form where
  positional : List Slot
  long : List (String × Slot)
  short : List (Char × Slot)

def inspectForm : Form := ⟨[.contract, .output], [], []⟩

def emitForm : Form :=
  ⟨[.contract], [("out", .out), ("outputs", .outputs), ("root", .root)], [('o', .out)]⟩

structure Pending where
  slot : Slot
  value : Option String
deriving DecidableEq, Repr

structure Scan where
  given : Given := {}
  pending : Option Pending := none
  positional : List Slot
  escaped : Bool := false

namespace Scan

def settle (scan : Scan) : Except Stop Scan :=
  match scan.pending with
  | none => .ok scan
  | some ⟨slot, none⟩ => .error (.missingValue slot)
  | some ⟨slot, some text⟩ =>
    return { scan with given := ← scan.given.set slot text, pending := none }

def place (text : String) (scan : Scan) : Except Stop Scan :=
  match scan.positional with
  | [] => .error (.unexpected text)
  | slot :: rest =>
    return { ← scan.settle with pending := some ⟨slot, some text⟩, positional := rest }

def plain (text : String) (scan : Scan) : Except Stop Scan :=
  match scan.pending with
  | some ⟨slot, none⟩ => .ok { scan with pending := some ⟨slot, some text⟩ }
  | _ => scan.place text

def option (slot : Slot) (value : Option String) (scan : Scan) : Except Stop Scan := do
  let settled ← scan.settle
  let named := { settled with pending := some ⟨slot, value⟩ }
  if value.isSome then named.settle else return named

def help (scan : Scan) : Except Stop Scan := do
  let _ ← scan.settle
  .error .help

def word (form : Form) (scan : Scan) : Word → Except Stop Scan
  | .escape => .ok { scan with escaped := true }
  | .plain text => scan.plain text
  | .long name value =>
    if name = "help" then
      match value with
      | none => scan.help
      | some value => .error (.needlessValue value "--help")
    else
      match form.long.lookup name with
      | some slot => scan.option slot value
      | none => .error (.unexpected ("--" ++ name))
  | .short letter rest =>
    if letter = 'h' then scan.help
    else
      match form.short.lookup letter with
      | some slot => scan.option slot (attached? rest)
      | none => .error (.unexpected (.ofList ['-', letter]))

def step (form : Form) (scan : Scan) (text : String) : Except Stop Scan :=
  if scan.escaped then scan.place text else scan.word form (.ofText text)

end Scan

def Form.read (form : Form) (words : List String) : Except Stop Given := do
  let scan ← words.foldlM (Scan.step form) { positional := form.positional }
  return (← scan.settle).given

def readInspect (words : List String) : Except Stop Command := do
  let given ← inspectForm.read words
  match given.contract, given.output with
  | some contract, some output => return .inspect contract output
  | _, _ => .error .missingParameters

def readEmit (words : List String) : Except Stop Command := do
  let given ← emitForm.read words
  match given.contract with
  | some contract =>
    return .emit { contract, out := given.out, outputs := given.outputs, root := given.root }
  | none => .error .missingParameters

inductive CommandName where
  | inspect
  | emit
  | help
deriving DecidableEq, Repr

def CommandName.ofText? : String → Option CommandName
  | "inspect" | "in" => some .inspect
  | "emit" | "e" => some .emit
  | "help" => some .help
  | _ => none

def readHelp : List String → Stop
  | [] => .help
  | name :: rest =>
    match CommandName.ofText? name, rest with
    | none, _ => .unknownCommand name
    | some _, [] => .help
    | some _, word :: _ => .unknownCommand word

def readEscaped : List String → Stop
  | [] => .noCommand
  | word :: _ =>
    if (CommandName.ofText? word).isSome then .unexpected word else .unknownCommand word

def readOther (rest : List String) : Word → Stop
  | .escape => readEscaped rest
  | .plain text => .unknownCommand text
  | .long name value =>
    if name = "help" ∨ name = "version" then
      match value with
      | some value => .needlessValue value ("--" ++ name)
      | none => if name = "help" then .help else .version
    else .unexpected ("--" ++ name)
  | .short letter _ =>
    if letter = 'h' then .help
    else if letter = 'V' then .version
    else .unexpected (.ofList ['-', letter])

def read : List String → Except Stop Command
  | [] => .error .noCommand
  | word :: rest =>
    match CommandName.ofText? word with
    | some .inspect => readInspect rest
    | some .emit => readEmit rest
    | some .help => .error (readHelp rest)
    | none => .error (readOther rest (.ofText word))

end NatSpec.CommandLine
