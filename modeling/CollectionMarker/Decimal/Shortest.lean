import CollectionMarker.Decimal.Double

/-! The decimal text of a magnitude: the fewest digits that read back, of those the nearest, and
from the middle the even one. The first grid of decimals on which a neighbour of the value reads
back settles their number. -/

namespace CollectionMarker

/-- The number `digits * 10 ^ exponent`. -/
structure Decimal where
  digits : Nat
  exponent : Int
  deriving DecidableEq

namespace Decimal

/-- The same number with up to so many zeros taken off the end of its digits. -/
def trimmed (d : Decimal) : Nat → Decimal
  | 0 => d
  | zeros + 1 => if d.digits % 10 = 0 then trimmed ⟨d.digits / 10, d.exponent + 1⟩ zeros else d

/-- Which numbers are written out. Any other is written with an exponent. -/
structure Form where
  /-- At most this many places before the point. -/
  places : Int
  /-- At most this many zeros between the point and the first digit. -/
  zeros : Int

def signed (exponent : Int) : List Char :=
  (if 0 ≤ exponent then ['+'] else ['-']) ++ Nat.toDigits 10 exponent.natAbs

def text (form : Form) (d : Decimal) : String :=
  let digits := Nat.toDigits 10 d.digits
  let point : Int := digits.length + d.exponent
  let out : List Char :=
    if 0 ≤ d.exponent ∧ point ≤ form.places then
      digits ++ List.replicate d.exponent.toNat '0' ++ ['.', '0']
    else if 0 < point ∧ point ≤ form.places then
      digits.take point.toNat ++ '.' :: digits.drop point.toNat
    else if -form.zeros ≤ point ∧ point ≤ 0 then
      ['0', '.'] ++ List.replicate (-point).toNat '0' ++ digits
    else
      let exponent := signed (point - 1)
      match digits with
      | [] => []
      | [digit] => digit :: 'e' :: exponent
      | first :: rest => first :: '.' :: rest ++ 'e' :: exponent
  String.ofList out

end Decimal

namespace Double

/-- The interval of numbers that round to a magnitude, in quarters of its last place: below, the
value itself, above. Below a power of two the neighbour is nearer. -/
def quarters (x : Double) : Nat × Nat × Nat :=
  let near := x.mantissa = Nat.pow 2 (precision - 1) ∧ leastExponent < x.exponent
  (4 * x.mantissa - (if near then 1 else 2), 4 * x.mantissa, 4 * x.mantissa + 2)

/-- The decimal exponent of the first digit of a magnitude that is not zero. None is as small as
`10 ^ -400`, so with the point moved by that much it is counted on whole digits. -/
def magnitude (x : Double) : Int :=
  let (num, den) := shifted (x.mantissa * Nat.pow 10 400) 1 x.exponent
  ((Nat.toDigits 10 (num / den)).length : Int) - 401

/-- The neighbour of the value on the grid of multiples of `10 ^ k` that reads back and is
nearest. -/
def onGrid? (x : Double) (k : Int) : Option Decimal :=
  let (below, value, above) := x.quarters
  let (num, den) := shifted 1 1 (x.exponent - 2)
  let (step, unit) := if 0 ≤ k then (Nat.pow 10 k.toNat, 1) else (1, Nat.pow 10 (-k).toNat)
  let place (q : Nat) : Nat := q * num * unit
  let grid (c : Nat) : Nat := c * step * den
  let readsBack (c : Nat) : Bool :=
    if x.mantissa % 2 = 0 then place below ≤ grid c && grid c ≤ place above
    else place below < grid c && grid c < place above
  let floor := place value / (step * den)
  let up := Double.nearest (place value) (step * den)
  if readsBack up then some ⟨up, k⟩
  else if readsBack floor then some ⟨floor, k⟩
  else if readsBack (floor + 1) then some ⟨floor + 1, k⟩
  else none

/-- The shortest decimal of a magnitude. Seventeen digits always read back. -/
def shortest (x : Double) : Decimal :=
  let first := x.magnitude
  let found := (List.range 17).findSome? fun (n : Nat) => x.onGrid? (first - n)
  (found.getD ⟨0, 0⟩).trimmed 17

def text (form : Decimal.Form) (x : Double) : String :=
  if x.mantissa = 0 then "0.0" else x.shortest.text form

end Double
end CollectionMarker
