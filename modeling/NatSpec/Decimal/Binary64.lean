set_option autoImplicit false

namespace NatSpec

-- The number `mantissa * 2 ^ exponent`, with a mantissa below `2 ^ 53`. A mantissa below `2 ^ 52`
-- occurs with the least exponent only.
structure Binary64 where
  mantissa : Nat
  exponent : Int
deriving DecidableEq, Repr

namespace Binary64

def leastFull : Nat := Nat.pow 2 52

def leastExponent : Int := -1074

def greatestExponent : Int := 971

def zero : Binary64 := ⟨0, leastExponent⟩

def roundHalfEven (num den : Nat) : Nat :=
  let whole := num / den
  let twice := 2 * (num % den)
  if twice < den then whole
  else if den < twice then whole + 1
  else whole + whole % 2

def mantissaAt (num den : Nat) (exponent : Int) : Nat :=
  roundHalfEven (num * Nat.pow 2 (-exponent).toNat) (den * Nat.pow 2 exponent.toNat)

def fittingExponent (num den : Nat) : Int :=
  let guess : Int := (num.log2 : Int) - den.log2 - 52
  let full := num * Nat.pow 2 (-guess).toNat / (den * Nat.pow 2 guess.toNat)
  max leastExponent (if full < leastFull then guess - 1 else guess)

def ofRatio (num den : Nat) : Option Binary64 :=
  if num = 0 then some zero
  else
    let exponent := fittingExponent num den
    let mantissa := mantissaAt num den exponent
    let rounded : Binary64 :=
      if mantissa = 2 * leastFull then ⟨leastFull, exponent + 1⟩ else ⟨mantissa, exponent⟩
    if greatestExponent < rounded.exponent then none else some rounded

def ofScaled (num den : Nat) (shift : Int) : Option Binary64 :=
  ofRatio (num * Nat.pow 2 shift.toNat) (den * Nat.pow 2 (-shift).toNat)

def ofNat (n : Nat) : Option Binary64 := ofRatio n 1

def mul (a b : Binary64) : Option Binary64 :=
  ofScaled (a.mantissa * b.mantissa) 1 (a.exponent + b.exponent)

def div (a b : Binary64) : Option Binary64 :=
  ofScaled a.mantissa b.mantissa (a.exponent - b.exponent)

def ofDecimal (significand : Nat) (exponent : Int) : Option Binary64 :=
  ofRatio (significand * Nat.pow 10 exponent.toNat) (Nat.pow 10 (-exponent).toNat)

end Binary64

end NatSpec
