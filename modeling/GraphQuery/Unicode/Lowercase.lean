import GraphQuery.Unicode.CaseMapping
import GraphQuery.Unicode.CaseProperty

/-!
# Lower-casing a whole word

Only one letter looks at its surroundings: a capital sigma becomes `ς` at the end of a word and
`σ` elsewhere. Every other character is mapped on its own.
-/

namespace GraphQuery.Unicode

/-- Whether the first character that is not passed over has case. -/
def meetsCased (s : List Char) : Bool :=
  (s.dropWhile isCaseIgnorable).head?.any isCased

/-- The lower-case form of a capital sigma: final after a cased letter and not before one. The
characters before it are listed nearest first. -/
def lowerSigma (before after : List Char) : Char :=
  if meetsCased before && !meetsCased after then 'ς' else 'σ'

/-- The lower-case form of text whose preceding characters are `before`, nearest first. -/
def lowercaseAfter (before : List Char) : List Char → List Char
  | [] => []
  | c :: rest =>
    (if c = 'Σ' then [lowerSigma before rest] else toLower c) ++ lowercaseAfter (c :: before) rest

def lowercase (s : List Char) : List Char :=
  lowercaseAfter [] s

/-- Text with its first character in upper case and every other one in lower case. Here a capital
sigma is mapped on its own. -/
def capitalize : List Char → List Char
  | [] => []
  | c :: rest => toUpper c ++ rest.flatMap toLower

example : lowercase "ΟΔΟΣ".toList = "οδος".toList := by decide +kernel

example : capitalize "ΟΔΟΣ".toList = "Οδοσ".toList := by decide +kernel

end GraphQuery.Unicode
