/-! Magnitudes of double precision in exact arithmetic: 53 bits, rounded to the nearest and from the
middle to the even neighbour. The exponent has no upper bound while one computes; a result is in
range when it is `finite`. -/

namespace CollectionMarker

/-- The magnitude `mantissa * 2 ^ exponent`. -/
structure Double where
  mantissa : Nat
  exponent : Int
  deriving DecidableEq

namespace Double

def precision : Nat := 53

def leastExponent : Int := -1074

def greatestExponent : Int := 971

def finite (x : Double) : Bool := x.exponent ≤ greatestExponent

/-- The natural number nearest to `num / den`; of two as near, the even one. -/
def nearest (num den : Nat) : Nat :=
  let q := num / den
  let twice := 2 * (num % den)
  if den < twice ∨ (twice = den ∧ q % 2 = 1) then q + 1 else q

/-- Numerator and denominator of `num / den * 2 ^ e`. -/
def shifted (num den : Nat) (e : Int) : Nat × Nat :=
  if 0 ≤ e then (num * Nat.pow 2 e.toNat, den) else (num, den * Nat.pow 2 (-e).toNat)

def round (num den : Nat) (e : Int) : Double :=
  if num = 0 then ⟨0, leastExponent⟩ else
    let (num, den) := shifted num den e
    let bits : Int := num.log2 - den.log2
    let (top, bottom) := shifted num den (-bits)
    let wanted := bits - precision + (if bottom ≤ top then 1 else 0)
    let exponent := max leastExponent wanted
    let (top, bottom) := shifted num den (-exponent)
    let mantissa := nearest top bottom
    if mantissa = Nat.pow 2 precision then ⟨Nat.pow 2 (precision - 1), exponent + 1⟩ else ⟨mantissa, exponent⟩

def ofNat (n : Nat) : Double := round n 1 0

def mul (x y : Double) : Double := round (x.mantissa * y.mantissa) 1 (x.exponent + y.exponent)

def div (x y : Double) : Double := round x.mantissa y.mantissa (x.exponent - y.exponent)

def greatestPower : Nat := 308

def powerOfTen (k : Nat) : Double := ofNat (Nat.pow 10 k)

/-- Divides by ten `k` times over, in steps of at most the greatest power. -/
def scaleDown (x : Double) (k : Nat) : Double :=
  if k ≤ greatestPower then x.div (powerOfTen k)
  else if x.mantissa = 0 then x
  else scaleDown (x.div (powerOfTen greatestPower)) (k - greatestPower)
termination_by k
decreasing_by simp only [greatestPower] at *; omega

/-- The magnitude read from `significand * 10 ^ exponent`: the significand is rounded before it is
scaled, so the result can be one unit off. Out of range is no magnitude. -/
def ofScientific? (significand : Nat) (exponent : Int) : Option Double :=
  let x := ofNat significand
  if exponent < 0 then some (x.scaleDown (-exponent).toNat)
  else if x.mantissa = 0 then some x
  else if greatestPower < exponent.toNat then none
  else
    let scaled := x.mul (powerOfTen exponent.toNat)
    if scaled.finite then some scaled else none

end Double
end CollectionMarker
