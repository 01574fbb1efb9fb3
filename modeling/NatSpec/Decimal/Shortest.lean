import NatSpec.Decimal.Binary64

set_option autoImplicit false

namespace NatSpec

structure Decimal where
  digits : Nat
  exponent : Int
deriving DecidableEq, Repr

inductive Tie where
  | even
  | above
deriving DecidableEq, Repr

namespace Decimal

def stripped (decimal : Decimal) : Decimal :=
  if 0 < decimal.digits ∧ decimal.digits % 10 = 0 then
    stripped ⟨decimal.digits / 10, decimal.exponent + 1⟩
  else decimal
termination_by decimal.digits

structure Ratio where
  num : Nat
  den : Nat

def digitCount (n : Nat) : Nat := (Nat.toDigits 10 n).length

def Ratio.leading (r : Ratio) : Int :=
  if r.den ≤ r.num then (digitCount (r.num / r.den) : Int) - 1
  else -(digitCount ((r.den + r.num - 1) / r.num - 1) : Int)

-- The reals that round to a double, as whole multiples `low` and `high` of the unit of `value`,
-- which itself is the multiple `middle`.
structure Interval where
  low : Nat
  middle : Nat
  high : Nat
  closed : Bool
  unit : Int

def Interval.ofBinary (value : Binary64) : Interval :=
  { low :=
      if value.mantissa = Binary64.leastFull && value.exponent != Binary64.leastExponent
      then 4 * value.mantissa - 1 else 4 * value.mantissa - 2
    middle := 4 * value.mantissa
    high := 4 * value.mantissa + 2
    closed := value.mantissa % 2 = 0
    unit := value.exponent - 2 }

def Interval.scaled (interval : Interval) (multiple : Nat) (exponent : Int) : Ratio :=
  ⟨multiple * Nat.pow 2 interval.unit.toNat * Nat.pow 10 (-exponent).toNat,
    Nat.pow 2 (-interval.unit).toNat * Nat.pow 10 exponent.toNat⟩

def Interval.holds (interval : Interval) (exponent : Int) (n : Nat) : Bool :=
  let low := interval.scaled interval.low exponent
  let high := interval.scaled interval.high exponent
  if interval.closed then low.num ≤ n * low.den && n * high.den ≤ high.num
  else low.num < n * low.den && n * high.den < high.num

def Ratio.isNearBelow (tie : Tie) (r : Ratio) (below : Nat) : Bool :=
  2 * (r.num % r.den) < r.den ||
    (tie = .even && 2 * (r.num % r.den) = r.den && below % 2 = 0)

def Interval.nearest? (tie : Tie) (interval : Interval) (exponent : Int) : Option Decimal :=
  let middle := interval.scaled interval.middle exponent
  let below := middle.num / middle.den
  let above := below + 1
  match interval.holds exponent below, interval.holds exponent above with
  | true, true =>
    some ⟨if middle.isNearBelow tie below then below else above, exponent⟩
  | true, false => some ⟨below, exponent⟩
  | false, true => some ⟨above, exponent⟩
  | false, false => none

def Interval.search (tie : Tie) (interval : Interval) (leading : Int) : Nat → Nat → Decimal
  | 0, _ => ⟨0, 0⟩
  | rounds + 1, count =>
    match interval.nearest? tie (leading - count) with
    | some decimal => decimal
    | none => interval.search tie leading rounds (count + 1)

def shortest (tie : Tie) (value : Binary64) : Decimal :=
  if value.mantissa = 0 then ⟨0, 0⟩
  else
    let interval := Interval.ofBinary value
    (interval.search tie (interval.scaled interval.middle 0).leading 17 0).stripped

def places (decimal : Decimal) : List Char × Int :=
  let digits := Nat.toDigits 10 decimal.digits
  (digits, digits.length + decimal.exponent)

def positional (fraction : String) (decimal : Decimal) : String :=
  let (digits, point) := decimal.places
  if point ≤ 0 then "0." ++ .ofList (List.replicate (-point).toNat '0' ++ digits)
  else if digits.length ≤ point.toNat then
    .ofList (digits ++ List.replicate (point.toNat - digits.length) '0') ++ fraction
  else .ofList (digits.take point.toNat) ++ "." ++ .ofList (digits.drop point.toNat)

def scientific (decimal : Decimal) : String :=
  let (digits, point) := decimal.places
  let exponent := point - 1
  .ofList (digits.take 1) ++ (if digits.length = 1 then "" else "." ++ .ofList (digits.drop 1)) ++
    "e" ++ (if exponent < 0 then "-" else "+") ++ .ofList (Nat.toDigits 10 exponent.natAbs)

end Decimal

end NatSpec
