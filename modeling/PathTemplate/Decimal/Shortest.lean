import PathTemplate.Decimal.Binary64

/-!
# Shortest decimal text

A number is written with the fewest digits that still round to it.  Of several decimals with that
many digits the nearest is taken, and the larger of two that are equally near.  The text has no
exponent, and a whole number ends in `.0`.
-/

namespace PathTemplate.Decimal

open Binary64 (power)

/-- A positive decimal fraction `0.d₁d₂… * 10 ^ point`. -/
structure Digits where
  digits : List Char
  point : Int
  deriving Repr, DecidableEq

/-- A positive fraction with the interval of fractions that round to the same number.  All three are
numerators over `den`. -/
structure Neighbourhood where
  low : Nat
  value : Nat
  high : Nat
  den : Nat
  /-- Whether the ends of the interval belong to it. -/
  closed : Bool

/-- The neighbourhood of `significand * 2 ^ exponent`.  Below a power of two numbers lie twice as
close as above it. -/
def Neighbourhood.ofBinary (significand : Nat) (exponent : Int) : Neighbourhood :=
  let scale := power 2 (exponent - 2)
  let below :=
    if significand = Binary64.leastFull ∧ exponent > Binary64.minExponent then 1 else 2
  { low := (4 * significand - below) * scale
    value := 4 * significand * scale
    high := (4 * significand + 2) * scale
    den := power 2 (2 - exponent)
    closed := significand % 2 = 0 }

namespace Neighbourhood

/-- Whether `num / den` rounds to the number of the neighbourhood. -/
def contains (n : Neighbourhood) (num den : Nat) : Bool :=
  let low := n.low * den
  let high := n.high * den
  let middle := num * n.den
  if n.closed then low ≤ middle && middle ≤ high else low < middle && middle < high

/-- How many digits stand before the point; zero or less if the value is below one. -/
def point (n : Neighbourhood) : Int :=
  if n.den ≤ n.value then
    (Nat.toDigits 10 (n.value / n.den)).length
  else
    let reciprocal := (n.den + n.value - 1) / n.value
    1 - (Nat.toDigits 10 (reciprocal - 1)).length

/-- The decimal of `count` digits for the value, if one of the two next to it has the value's
neighbourhood. -/
def decimal? (n : Neighbourhood) (count : Nat) : Option Digits :=
  let place : Int := n.point - count
  let num := n.value * power 10 (-place)
  let den := n.den * power 10 place
  let lower := num / den
  let has (candidate : Nat) : Bool :=
    n.contains (candidate * power 10 place) (power 10 (-place))
  let chosen? :=
    if has (lower + 1) && (!has lower || den ≤ 2 * (num % den)) then some (lower + 1)
    else if has lower then some lower
    else none
  chosen?.map fun chosen =>
    let digits := Nat.toDigits 10 chosen
    { digits := (digits.reverse.dropWhile (· == '0')).reverse
      point := digits.length + place }

/-- Seventeen digits tell any two numbers apart. -/
def shortest (n : Neighbourhood) : Digits :=
  ((List.range' 1 17).findSome? n.decimal?).getD ⟨[], 0⟩

end Neighbourhood

/-- Positional text, with at least one digit on each side of the point. -/
def Digits.text (d : Digits) : String :=
  let zeros (n : Int) := List.replicate n.toNat '0'
  let count : Int := d.digits.length
  let whole :=
    if d.point ≤ 0 then ['0'] else d.digits.take d.point.toNat ++ zeros (d.point - count)
  let part := zeros (-d.point) ++ d.digits.drop d.point.toNat
  String.ofList (whole ++ '.' :: if part = [] then ['0'] else part)

end PathTemplate.Decimal

namespace PathTemplate.Binary64

def text : Binary64 → String
  | finite negative significand exponent =>
    let magnitude :=
      if significand = 0 then "0.0"
      else (Decimal.Neighbourhood.ofBinary significand exponent).shortest.text
    if negative then "-" ++ magnitude else magnitude
  | infinite negative => if negative then "-inf" else "inf"
  | nan => "NaN"

end PathTemplate.Binary64
