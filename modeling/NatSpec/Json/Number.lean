import NatSpec.Decimal.Shortest

set_option autoImplicit false

namespace NatSpec.Json

inductive Number where
  | integer (value : Int)
  | float (negative : Bool) (magnitude : Binary64)
deriving DecidableEq, Repr

def wordMax : Nat := Nat.pow 2 64 - 1

def digitValue (c : Char) : Nat := c.toNat - '0'.toNat

def absorb (significand : Nat) : List Char → Nat × List Char
  | [] => (significand, [])
  | c :: rest =>
    if c.isDigit && significand * 10 + digitValue c ≤ wordMax then
      absorb (significand * 10 + digitValue c) rest
    else (significand, c :: rest)

def divByPower (value : Binary64) (exponent : Nat) : Option Binary64 :=
  (Binary64.ofDecimal 1 exponent).bind value.div

-- `value / 10 ^ (308 * strides + exponent)`, one stride after the other, until nothing is left.
def scaleDown (exponent : Nat) : Nat → Binary64 → Option Binary64
  | 0, value => divByPower value exponent
  | strides + 1, value =>
    if value.mantissa = 0 then some value
    else (divByPower value 308).bind (scaleDown exponent strides)

def scale (value : Binary64) (exponent : Int) : Option Binary64 :=
  if exponent < 0 then
    let strides := (exponent.natAbs - 1) / 308
    scaleDown (exponent.natAbs - 308 * strides) strides value
  else if exponent ≤ 308 then (Binary64.ofDecimal 1 exponent).bind value.mul
  else if value.mantissa = 0 then some value
  else none

def Number.ofParts (negative : Bool) (significand : Nat) (exponent : Int) : Option Number :=
  ((Binary64.ofNat significand).bind (scale · exponent)).map (.float negative)

def Number.ofWord (negative : Bool) (significand : Nat) : Option Number :=
  if negative then
    if 0 < significand ∧ significand ≤ Nat.pow 2 63 then some (.integer (-(significand : Int)))
    else (Binary64.ofNat significand).map (.float true)
  else some (.integer significand)

-- Doubles always show a point or an exponent. Of two shortest decimals as near as each other the
-- one with an even last digit is shown.
def floatText (negative : Bool) (magnitude : Binary64) : String :=
  let decimal := Decimal.shortest .even magnitude
  let leading := decimal.places.2 - 1
  (if negative then "-" else "") ++
    (if decimal.digits = 0 then "0.0"
    else if -5 ≤ leading ∧ leading ≤ 15 then decimal.positional ".0"
    else decimal.scientific)

end NatSpec.Json
