import NatSpec.Json.Reader
import NatSpec.Json.Written
import NatSpec.Output

set_option autoImplicit false

namespace NatSpec.Output

open Json

def written (output : Output) : List Char := writtenString output.name

def readName : Reader Output := fun s =>
  match found : skipBlank s with
  | [] => .error (.atEnd .endInObject)
  | c :: body =>
    if c = '"' then
      match Reader.quoted s body (shorter_of_skipBlank found) with
      | .error halt => .error halt
      | .ok (name, rest) =>
        match ofVariant? name with
        | none => .error (.before (.unknownVariant name variantNames) rest.val)
        | some output => .ok (output, rest)
    else if c = '\x7d' then .error (.upon .noValue (c :: body))
    else .error (.upon .keyNotString (c :: body))

def readNull (s : List Char) : Except Halt (Rest s) :=
  match found : skipBlank s with
  | [] => .error (.atEnd .endInValue)
  | c :: body =>
    if c = 'n' then
      match Reader.word () "ull".toList s body (shorter_of_skipBlank found) with
      | .error halt => .error halt
      | .ok ((), rest) => .ok rest
    else .error (mismatch "unit" (c :: body))

def readClosing (s : List Char) : Except Halt (Rest s) :=
  match found : skipBlank s with
  | [] => .error (.atEnd .endInObject)
  | c :: rest =>
    if c = '\x7d' then .ok ⟨rest, shorter_of_skipBlank found⟩
    else .error (.before .noValue (c :: rest))

def reader : Reader Output := fun s =>
  match found : skipBlank s with
  | [] => .error (.atEnd .endInValue)
  | c :: body =>
    if c = '\x7b' then
      match readName body with
      | .error halt => .error halt
      | .ok (output, ⟨colon, colonShorter⟩) =>
        match Shape.colon colon with
        | .error halt => .error halt
        | .ok ⟨value, valueShorter⟩ =>
          match readNull value with
          | .error halt => .error halt
          | .ok ⟨closing, closingShorter⟩ =>
            match readClosing closing with
            | .error halt => .error halt
            | .ok ⟨rest, shorter⟩ =>
              .ok (output, ⟨rest, by have := shorter_of_skipBlank found; omega⟩)
    else if c = '"' then readName s
    else .error (.upon .noValue (c :: body))

def ofJson (text : String) : Except ReadFailure Output := Json.read reader text

end NatSpec.Output
