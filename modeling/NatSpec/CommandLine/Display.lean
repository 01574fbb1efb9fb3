import NatSpec.Settings.Environment

set_option autoImplicit false

namespace NatSpec.CommandLine

structure Display where
  width : Nat
  hasStyles : Bool
deriving DecidableEq, Repr

namespace Display

def usualWidth : Nat := 100

def number? (text : String) : Option Nat :=
  let chars := text.toList
  let digits := if chars.head? = some '+' then chars.drop 1 else chars
  if digits = [] ∨ ¬digits.all Char.isDigit then none else some (Settings.digitsValue digits)

def isSet (env : Environment) (name : String) : Bool := (env.lookup name).any (· ≠ "")

def ofEnvironment (env : Environment) : Display :=
  { width := ((env.lookup "COLUMNS").bind number?).getD usualWidth
    hasStyles := isSet env "CLICOLOR_FORCE" && !isSet env "NO_COLOR" }

end Display

end NatSpec.CommandLine
