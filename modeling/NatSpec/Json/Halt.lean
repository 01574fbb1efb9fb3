import NatSpec.Json.ReadError

set_option autoImplicit false

namespace NatSpec.Json

structure Position where
  line : Nat
  column : Nat
deriving DecidableEq, Repr

namespace Position

def start : Position := ⟨1, 0⟩

def after (position : Position) (c : Char) : Position :=
  if c = '\n' then ⟨position.line + 1, 0⟩ else ⟨position.line, position.column + c.utf8Size⟩

def advance (bytes : Nat) : List Char → Position → Position
  | [], position => position
  | c :: rest, position =>
    if c.utf8Size ≤ bytes then advance (bytes - c.utf8Size) rest (position.after c)
    else { position with column := position.column + bytes }

end Position

structure Halt where
  cause : ReadError
  rest : List Char
  seen : Nat
deriving DecidableEq, Repr

namespace Halt

def before (cause : ReadError) (rest : List Char) : Halt := ⟨cause, rest, 0⟩

def upon (cause : ReadError) (rest : List Char) : Halt := ⟨cause, rest, 1⟩

def atEnd (cause : ReadError) : Halt := ⟨cause, [], 0⟩

def position (text : List Char) (halt : Halt) : Position :=
  .advance halt.seen halt.rest
    ((text.take (text.length - halt.rest.length)).foldl Position.after .start)

end Halt

structure ReadFailure where
  cause : ReadError
  position : Position
deriving DecidableEq, Repr

def Halt.inText (text : List Char) (halt : Halt) : ReadFailure :=
  ⟨halt.cause, halt.position text⟩

def ReadFailure.message (failure : ReadFailure) : String :=
  failure.cause.message ++ " at line " ++ toString failure.position.line ++ " column " ++
    toString failure.position.column

end NatSpec.Json
