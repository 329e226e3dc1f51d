/-!
# Binary floating-point numbers

Finite numbers of the 64-bit binary format, kept as sign, mantissa and exponent. A decimal is read
as the nearest such number; a tie goes to the even mantissa.
-/

namespace GraphQuery.Decimal

/-- The number `± mantissa * 2 ^ exponent`. Nonzero numbers have a mantissa of exactly 53 bits, or
of fewer when the exponent is the least one; zero has the least exponent too. -/
structure Binary64 where
  negative : Bool
  mantissa : Nat
  exponent : Int
deriving DecidableEq, Repr, Inhabited

namespace Binary64

def minExponent : Int := -1074

def maxExponent : Int := 971

/-- The least mantissa of 53 bits. -/
def leadingBit : Nat := 0x10000000000000

def zero (negative : Bool) : Binary64 :=
  ⟨negative, 0, minExponent⟩

/-- The quotient rounded to the nearest integer, a half going to the even one. -/
def roundDiv (num den : Nat) : Nat :=
  let q := num / den
  let twice := 2 * (num % den)
  if twice < den then q else if den < twice then q + 1 else q + q % 2

/-- `num / den / 2 ^ e` as a quotient of natural numbers. -/
def scaleBinary (num den : Nat) (e : Int) : Nat × Nat :=
  (num <<< (-e).toNat, den <<< e.toNat)

/-- The number nearest to the quotient, unless that is beyond the greatest number. -/
def ofRatio? (negative : Bool) (num den : Nat) : Option Binary64 :=
  if num = 0 then some (zero negative)
  else
    let guess := max ((num.log2 : Int) - den.log2 - 53) minExponent
    let (n, d) := scaleBinary num den guess
    let e := if n / d < 2 * leadingBit then guess else guess + 1
    let (n, d) := scaleBinary num den e
    let m := roundDiv n d
    let (m, e) := if m = 2 * leadingBit then (leadingBit, e + 1) else (m, e)
    if maxExponent < e then none else some ⟨negative, m, e⟩

/-- The number nearest to `± coefficient * 10 ^ scale`. Beyond 310 digits before the point every
number is too great, and below 330 zeros after it every number rounds to zero. -/
def ofDecimal? (negative : Bool) (coefficient : Nat) (scale : Int) : Option Binary64 :=
  let magnitude := (Nat.toDigits 10 coefficient).length + scale
  if coefficient = 0 ∨ magnitude < -330 then some (zero negative)
  else if 310 < magnitude then none
  else ofRatio? negative (coefficient * Nat.pow 10 scale.toNat) (Nat.pow 10 (-scale).toNat)

def toInt? (x : Binary64) : Option Int :=
  let sign := fun n : Nat => if x.negative then -(n : Int) else n
  if 0 ≤ x.exponent then some (sign (x.mantissa <<< x.exponent.toNat))
  else
    let unit := 1 <<< (-x.exponent).toNat
    if x.mantissa % unit = 0 then some (sign (x.mantissa / unit)) else none

/-- The number nearest to an integer of at most 64 bits. -/
def ofInt (n : Int) : Binary64 :=
  (ofRatio? (n < 0) n.natAbs 1).getD (zero false)

example : ofDecimal? false 1 0 = some ⟨false, leadingBit, -52⟩ := by decide +kernel

example : ofDecimal? false 5 (-324) = some ⟨false, 1, -1074⟩ := by decide +kernel

example : ofDecimal? false 17 307 ≠ none ∧ ofDecimal? false 18 307 = none := by decide +kernel

end Binary64

end GraphQuery.Decimal
