import GraphQuery.Decimal.Shortest

/-!
# Layout of decimals

How the digits of a floating-point number are set out: with a point among them, or as one digit
with a fraction and a power of ten.
-/

namespace GraphQuery.Decimal

structure Layout where
  /-- Whether a number whose first digit has this weight is written without a power of ten. -/
  positional : Int → Bool
  /-- Whether a whole number is written with a point and a zero. -/
  pointOnWhole : Bool
  /-- Which of two equally near decimals is written. -/
  tie : Tie

namespace Layout

/-- Numbers from 0.00001 up to 10 ^ 16 are written positionally, whole ones with `.0`. -/
def compact : Layout :=
  { positional := fun weight => -5 ≤ weight ∧ weight ≤ 15
    pointOnWhole := true
    tie := .even }

/-- Every number is written positionally, whole ones without a point. -/
def plain : Layout :=
  { positional := fun _ => true
    pointOnWhole := false
    tie := .up }

/-- Digits times a power of ten, with a point among the digits where one is needed. -/
def positionalText (layout : Layout) (digits : List Char) (scale : Int) : List Char :=
  if 0 ≤ scale then
    digits ++ List.replicate scale.toNat '0' ++ (if layout.pointOnWhole then ['.', '0'] else [])
  else
    let places := (-scale).toNat
    let padded := List.replicate (places + 1 - digits.length) '0' ++ digits
    let whole := padded.length - places
    padded.take whole ++ '.' :: padded.drop whole

/-- Digits times a power of ten, as one digit, a fraction if there are more digits, and the power
with its sign. -/
def exponentText (digits : List Char) (scale : Int) : List Char :=
  let weight := scale + digits.length - 1
  let sign := if weight < 0 then '-' else '+'
  let fraction := if digits.length ≤ 1 then [] else '.' :: digits.drop 1
  digits.take 1 ++ fraction ++ 'e' :: sign :: Nat.toDigits 10 weight.natAbs

def text (layout : Layout) (x : Binary64) : List Char :=
  let shortest := x.shortest layout.tie
  let digits := Nat.toDigits 10 shortest.coefficient
  let weight := shortest.scale + digits.length - 1
  let magnitude :=
    if layout.positional weight then layout.positionalText digits shortest.scale
    else exponentText digits shortest.scale
  if x.negative then '-' :: magnitude else magnitude

example : compact.text (.zero true) = "-0.0".toList := by decide +kernel

example : (Binary64.ofDecimal? false 15 299).map compact.text = some "1.5e+300".toList := by
  decide +kernel

example : (Binary64.ofDecimal? false 1 (-5)).map compact.text = some "0.00001".toList := by
  decide +kernel

example : (Binary64.ofDecimal? true 1 21).map plain.text =
    some "-1000000000000000000000".toList := by decide +kernel

end Layout

end GraphQuery.Decimal
