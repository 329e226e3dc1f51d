import GraphQuery.Naming.Words

/-!
# Unique names

A requested name is written in camel case and split into a stem and a numeric suffix. A suffix of
one is never written, so a bare stem counts as one. The requested suffix is kept if it is free;
otherwise the name takes the suffix after the highest one in use for its stem. Suffixes fit in
64 bits: digits that do not fit belong to the stem, and when the highest suffix is in use the
least free one is taken.
-/

namespace GraphQuery.Naming

def maxSuffix : Nat := 0xFFFFFFFFFFFFFFFF

def defaultStem : List Char := ['p']

/-- The number that ASCII digits denote, if it is a suffix. -/
def suffix? (digits : List Char) : Option Nat :=
  if digits ≠ [] ∧ digits.all Char.isDigit ∧ Nat.ofDigitChars 10 digits 0 ≤ maxSuffix then
    some (Nat.ofDigitChars 10 digits 0)
  else none

/-- The form in which a requested name is considered: camel case, never digits alone. -/
def canonical (requested : List Char) : List Char :=
  let name := camelCase requested
  if name.all Char.isDigit then defaultStem ++ name else name

/-- The ASCII digits at the end of a name. -/
def trailingDigits (name : List Char) : List Char :=
  (name.reverse.takeWhile Char.isDigit).reverse

/-- A name without the ASCII digits at its end. -/
def withoutDigits (name : List Char) : List Char :=
  (name.reverse.dropWhile Char.isDigit).reverse

def splitSuffix (name : List Char) : List Char × Option Nat :=
  match suffix? (trailingDigits name) with
  | some n => (withoutDigits name, some n)
  | none => (name, none)

def takenSuffix? (stem name : List Char) : Option Nat :=
  match stem.isPrefixOf? name with
  | none => none
  | some [] => some 1
  | some digits => suffix? digits

def leastFree (taken : List Nat) : Nat :=
  (((List.range (taken.length + 1)).map (· + 1)).find? (· ∉ taken)).getD maxSuffix

/-- The suffix after the highest one taken, or the least free one when there is none after it. -/
def nextSuffix (taken : List Nat) : Nat :=
  let highest := taken.foldr max 0
  if highest < maxSuffix then highest + 1 else leastFree taken

/-- The suffix given to a request: its own if that is positive and free. -/
def chooseSuffix (requested : Option Nat) (taken : List Nat) : Nat :=
  match requested with
  | some n => if n ≠ 0 ∧ n ∉ taken then n else nextSuffix taken
  | none => nextSuffix taken

/-- A stem with a suffix written after it, unless the suffix is one. -/
def withSuffix (stem : List Char) (n : Nat) : List Char :=
  if n = 1 then stem else stem ++ Nat.toDigits 10 n

/-- A name derived from the requested one that differs from every existing name. -/
def uniqueName (requested : String) (existing : List String) : String :=
  let (stem, suffix) := splitSuffix (canonical requested.toList)
  let taken := existing.filterMap fun name => takenSuffix? stem name.toList
  String.ofList (withSuffix stem (chooseSuffix suffix taken))

example : uniqueName "aString7" ["aString6", "aString7", "aString8"] = "aString9" := by
  decide +kernel

example : uniqueName "name" ["name"] = "name2" := by decide +kernel

end GraphQuery.Naming
