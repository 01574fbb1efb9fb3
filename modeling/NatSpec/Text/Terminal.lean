set_option autoImplicit false

namespace NatSpec.Text.Terminal

def escape : Char := '\x1b'

def stringEnd : UInt8 := 0x9c

inductive Mode where
  | ground
  | escape
  | qualified
  | control
  | system
  | device
  | deviceParams
  | deviceQualified
  | string
deriving DecidableEq, Repr

def isWhite (c : Char) : Bool := c = ' ' || c = '\t' || c = '\n' || c = '\x0c' || c = '\r'

def isControl (c : Char) : Bool := c.toNat < 0x20 || c.toNat = 0x7f

def isBetween (low high : Nat) (c : Char) : Bool := low ≤ c.toNat && c.toNat ≤ high

def isQualifier (c : Char) : Bool := isBetween 0x20 0x2f c

def Mode.opened (c : Char) : Mode :=
  if c = '[' then .control
  else if c = ']' then .system
  else if c = 'P' then .device
  else if c = 'X' || c = '^' || c = '_' then .string
  else if isQualifier c then .qualified
  else if isBetween 0x30 0x7e c then .ground
  else .escape

def Mode.taken (mode : Mode) (c : Char) : Mode :=
  match mode with
  | .ground => .ground
  | .escape => .opened c
  | .qualified => if isBetween 0x30 0x7e c then .ground else .qualified
  | .control => if isBetween 0x40 0x7e c then .ground else .control
  | .system => if c = '\x07' then .ground else .system
  | .device =>
    if isQualifier c then .deviceQualified
    else if isBetween 0x30 0x3f c then .deviceParams
    else if isBetween 0x40 0x7e c then .string
    else .device
  | .deviceParams =>
    if isQualifier c then .deviceQualified
    else if isBetween 0x3c 0x7e c then .string
    else .deviceParams
  | .deviceQualified => if isBetween 0x30 0x7e c then .string else .deviceQualified
  | .string => .string

def Mode.heedsControls : Mode → Bool
  | .ground | .escape | .qualified | .control => true
  | .system | .device | .deviceParams | .deviceQualified | .string => false

def Mode.step (mode : Mode) (c : Char) : Mode × Bool :=
  if mode = .ground && !isControl c then (.ground, true)
  else if 0x80 ≤ c.toNat then
    (if mode = .string && (String.utf8EncodeChar c).contains stringEnd then .ground else mode,
      false)
  else if c = Terminal.escape then (.escape, false)
  else if c = '\x18' || c = '\x1a' then (.ground, false)
  else (mode.taken c, mode.heedsControls && isControl c && isWhite c)

-- The characters that are shown. White space inside a sequence is shown as well and breaks it off.
-- With `resumes` the sequence goes on at the next control character.
def shown (resumes : Bool) (mode : Mode) (showing : Bool) : List Char → List Char
  | [] => []
  | c :: rest =>
    if showing && (Mode.ground.step c).2 then
      c :: shown resumes (if c.toNat < 0x80 then mode else .ground) true rest
    else if (mode.step c).2 then
      c :: shown resumes (if resumes then (mode.step c).1 else .ground) true rest
    else shown resumes (mode.step c).1 false rest

def plain (text : String) : String := .ofList (shown false .ground false text.toList)

def written (text : String) : String := .ofList (shown true .ground false text.toList)

def styled (codes : List String) (text : String) : String :=
  String.join (codes.map fun code => "\x1b[" ++ code ++ "m") ++ text ++ "\x1b[0m"

end NatSpec.Text.Terminal
