import CollectionMarker.Decimal.Shortest

/-! Numbers as they stand in a document. Whole numbers of 64 bits stay whole; all others become
doubles. Of the digits only as many count as 64 bits can hold; those after them only move the
point. -/

namespace CollectionMarker.Json

inductive Number
  | whole (value : Int)
  | floating (negative : Bool) (magnitude : Double)
  deriving DecidableEq

namespace Number

def limit : Nat := Nat.pow 2 64

/-- Takes digits into a significand while it stays in bounds, and gives back those left. -/
def gather (significand : Nat) : List Char → Nat × List Char
  | [] => (significand, [])
  | c :: rest =>
    let next := 10 * significand + (c.toNat - '0'.toNat)
    if next < limit then gather next rest else (significand, c :: rest)

def value (digits : List Char) : Nat :=
  digits.foldl (fun n c => 10 * n + (c.toNat - '0'.toNat)) 0

def exponent? : List Char → Option (Option Int)
  | e :: rest =>
    if e = 'e' ∨ e = 'E' then
      let (negative, rest) := match rest with
        | '+' :: rest => (false, rest)
        | '-' :: rest => (true, rest)
        | rest => (false, rest)
      let digits := rest.takeWhile Char.isDigit
      if digits = [] then none
      else some (some (if negative then -(value digits : Int) else value digits))
    else some none
  | [] => some none

/-- Digits without point and exponent. A negative zero is a double. -/
def ofDigits (negative : Bool) (significand : Nat) : Number :=
  if !negative then .whole significand
  else if 0 < significand ∧ significand ≤ Nat.pow 2 63 then .whole (-significand)
  else .floating true (.ofNat significand)

/-- The number at the start of a text, its sign already read. -/
def read? (negative : Bool) (cs : List Char) : Option Number := do
  let digits := cs.takeWhile Char.isDigit
  let rest := cs.dropWhile Char.isDigit
  let leadingZero := digits.head? == some '0' && digits.length != 1
  if digits.isEmpty || leadingZero then none
  let (significand, left) := gather 0 digits
  match rest with
  | '.' :: rest =>
    let fraction := rest.takeWhile Char.isDigit
    if fraction.isEmpty then none
    let exponent ← exponent? (rest.dropWhile Char.isDigit)
    let (significand, unused) := gather significand fraction
    let places : Int := fraction.length - unused.length
    .floating negative <$> Double.ofScientific? significand (left.length - places + exponent.getD 0)
  | rest => match ← exponent? rest, left with
    | none, [] => some (ofDigits negative significand)
    | exponent, _ =>
      .floating negative <$> Double.ofScientific? significand (left.length + exponent.getD 0)

/-- Up to sixteen places before the point and four zeros after it are written out. -/
def form : Decimal.Form := ⟨16, 4⟩

def text : Number → String
  | .whole value => toString value
  | .floating negative magnitude => (if negative then "-" else "") ++ magnitude.text form

end Number
end CollectionMarker.Json
