/-!
# Binary floating-point numbers of 64 bits

A finite number is `significand * 2 ^ exponent` with a significand below `2 ^ 53` and an exponent of
at least -1074.  A decimal is rounded to the nearest such number, and to the even significand of two
that are equally near.  Above the largest number it becomes infinite.
-/

namespace PathTemplate

inductive Binary64 where
  | finite (negative : Bool) (significand : Nat) (exponent : Int)
  | infinite (negative : Bool)
  | nan
  deriving Repr, DecidableEq

namespace Binary64

def minExponent : Int := -1074

def maxExponent : Int := 971

/-- The least significand of full precision. -/
def leastFull : Nat := 0x10000000000000

/-- `base ^ exponent`, or one for a negative exponent. -/
def power (base : Nat) (exponent : Int) : Nat := Nat.pow base exponent.toNat

/-- The integer nearest to a quotient, the even one of two that are equally near. -/
def roundQuotient (num den : Nat) : Nat :=
  let quotient := num / den
  let rest := 2 * (num % den)
  if rest < den ∨ (rest = den ∧ quotient % 2 = 0) then quotient else quotient + 1

/-- The fraction `num / den / 2 ^ exponent` as a pair of numerator and denominator. -/
def scaled (num den : Nat) (exponent : Int) : Nat × Nat :=
  (num * power 2 (-exponent), den * power 2 exponent)

/-- The exponent with which a positive fraction has a significand of full precision, or the least
exponent there is. -/
def exponentOf (num den : Nat) : Int :=
  let guess : Int := num.log2 - den.log2 - 52
  let (n, d) := scaled num den guess
  let exponent := if n < leastFull * d then guess - 1 else guess
  max exponent minExponent

def ofFraction (negative : Bool) (num den : Nat) : Binary64 :=
  let exponent := exponentOf num den
  let (n, d) := scaled num den exponent
  let significand := roundQuotient n d
  let (significand, exponent) :=
    if significand = 2 * leastFull then (leastFull, exponent + 1)
    else (significand, exponent)
  if exponent > maxExponent then infinite negative else finite negative significand exponent

/-- The number nearest to `digits * 10 ^ exponent`.  A magnitude beyond `10 ^ 310` or below
`10 ^ -330` is decided by the place of its first digit. -/
def ofDecimal (negative : Bool) (digits : Nat) (exponent : Int) : Binary64 :=
  let places : Int := (Nat.toDigits 10 digits).length + exponent
  if digits = 0 ∨ places < -330 then finite negative 0 minExponent
  else if places > 310 then infinite negative
  else ofFraction negative (digits * power 10 exponent) (power 10 (-exponent))

end Binary64
end PathTemplate
