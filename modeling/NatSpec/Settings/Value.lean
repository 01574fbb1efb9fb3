import NatSpec.Decimal.Shortest
import NatSpec.Dict
import NatSpec.Text.Quoted

set_option autoImplicit false

namespace NatSpec.Settings

def unsignedBound : Nat := Nat.pow 2 64

def signedBound : Nat := Nat.pow 2 63

inductive FloatValue where
  | finite (negative : Bool) (magnitude : Binary64)
  | infinite (negative : Bool)
  | nan
deriving DecidableEq, Repr

-- Always positional, without a point when whole. Of two shortest decimals as near as each other the
-- greater is shown.
def FloatValue.text : FloatValue → String
  | .finite negative magnitude =>
    (if negative then "-" else "") ++
      (if magnitude.mantissa = 0 then "0" else (Decimal.shortest .above magnitude).positional "")
  | .infinite negative => if negative then "-inf" else "inf"
  | .nan => "NaN"

inductive Value where
  | bool (value : Bool)
  | unsigned (value : Nat)
  | signed (value : Int)
  | float (value : FloatValue)
  | string (text : String)
  | char (value : Char)
  | list (items : List Value)
  | map (members : List (String × Value))
deriving Inhabited

def Value.describe : Value → String
  | .bool value => "bool " ++ (if value then "true" else "false")
  | .unsigned value => "unsigned int `" ++ toString value ++ "`"
  | .signed value => "signed int `" ++ toString value ++ "`"
  | .float value => "float `" ++ value.text ++ "`"
  | .string text => "string " ++ Text.quoted text
  | .char value => "string " ++ Text.quoted (.ofList [value])
  | .list _ => "sequence"
  | .map _ => "map"

def FloatValue.ofDecimal (negative : Bool) (significand : Nat) (exponent : Int) : FloatValue :=
  let leading := exponent + Decimal.digitCount significand
  if significand = 0 ∨ leading < -400 then .finite negative .zero
  else if 400 < leading then .infinite negative
  else
    match Binary64.ofDecimal significand exponent with
    | some magnitude => .finite negative magnitude
    | none => .infinite negative

def digitsValue (digits : List Char) : Nat :=
  digits.foldl (fun value c => value * 10 + (c.toNat - '0'.toNat)) 0

def FloatValue.ofDigits (negative : Bool) (whole fraction : List Char) (exponent : Int) :
    FloatValue :=
  ofDecimal negative (digitsValue (whole ++ fraction)) (exponent - fraction.length)

end NatSpec.Settings
