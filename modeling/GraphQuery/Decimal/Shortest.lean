import GraphQuery.Decimal.Binary64

/-!
# Shortest decimals

The decimal with the fewest digits that reads back as a given binary number. The decimals that
read back are those between the midpoints to the two neighbouring numbers, ends included exactly
when the mantissa is even. Grids of decimals are tried from coarse to fine; on each one only the
two neighbours of the number can be the nearest point, and of two that read back the nearer wins.
-/

namespace GraphQuery.Decimal

inductive Tie
  | even
  | up
deriving DecidableEq, Repr

/-- The decimal `coefficient * 10 ^ scale`. -/
structure Scaled where
  coefficient : Nat
  scale : Int
deriving DecidableEq, Repr

namespace Binary64

/-- The distance from a number down to the lower midpoint, in quarters of its unit. Just above a
power of two the lower neighbour is only half as far away. -/
def lowerGap (x : Binary64) : Nat :=
  if x.mantissa = leadingBit ∧ minExponent < x.exponent then 1 else 2

/-- The point of the grid with step `10 ^ scale` that is nearest to a positive number among those
that read back as it. With `a` for a quarter of the number's unit and `b` for the step, both
brought to whole numbers, the number is `4 * mantissa * a` and the point `k` is `k * b`. -/
def gridPoint? (tie : Tie) (x : Binary64) (scale : Int) : Option Nat :=
  let a := Nat.pow 10 (-scale).toNat <<< x.exponent.toNat
  let b := 4 * Nat.pow 10 scale.toNat <<< (-x.exponent).toNat
  let low := (4 * x.mantissa - x.lowerGap) * a
  let value := 4 * x.mantissa * a
  let high := (4 * x.mantissa + 2) * a
  let readsBack := fun k : Nat =>
    if x.mantissa % 2 = 0 then low ≤ k * b && k * b ≤ high else low < k * b && k * b < high
  let below := value / b
  let above := below + 1
  let lowerIsNearer :=
    match compare (value - below * b) (above * b - value) with
    | .lt => true
    | .gt => false
    | .eq => match tie with
      | .even => below % 2 == 0
      | .up => false
  if readsBack below && (lowerIsNearer || !readsBack above) then some below
  else if readsBack above then some above
  else none

/-- The first point found on ever finer grids, at most `grids` of them after the first. -/
def searchGrids (tie : Tie) (x : Binary64) : Nat → Int → Scaled
  | 0, scale => ⟨((x.gridPoint? tie scale).getD 0), scale⟩
  | grids + 1, scale =>
    match x.gridPoint? tie scale with
    | some k => ⟨k, scale⟩
    | none => searchGrids tie x grids (scale - 1)

/-- A power of ten that is above a positive number: a bit is worth a little more than 0.30103
digits. -/
def decimalBound (x : Binary64) : Int :=
  ((x.mantissa.log2 : Int) + 1 + x.exponent) * 30103 / 100000 + 1

/-- The shortest decimal that reads back as the magnitude of a number. Seventeen digits always
suffice, and the first grids are coarser than the number is great. -/
def shortest (tie : Tie) (x : Binary64) : Scaled :=
  if x.mantissa = 0 then ⟨0, 0⟩ else searchGrids tie x 20 x.decimalBound

example : shortest .even ⟨false, 1, -1074⟩ = ⟨5, -324⟩ := by decide +kernel

example : ((ofDecimal? false 3 (-1)).map (shortest .even)) = some ⟨3, -1⟩ := by decide +kernel

end Binary64

end GraphQuery.Decimal
