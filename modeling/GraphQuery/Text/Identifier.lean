import GraphQuery.Unicode.Numeric

/-!
# Identifiers

An identifier starts with a letter or an underscore and goes on with letters, numerals and
underscores. Any other name stands between backticks, with its own backticks doubled.
-/

namespace GraphQuery.Text

open Unicode

def startsIdentifier (c : Char) : Bool :=
  isAlphabetic c || c = '_'

def continuesIdentifier (c : Char) : Bool :=
  isAlphanumeric c || c = '_'

def isIdentifier : List Char → Bool
  | [] => false
  | c :: rest => startsIdentifier c && rest.all continuesIdentifier

def backtick : Char := '\x60'

def doubleBackticks (s : List Char) : List Char :=
  s.flatMap fun c => if c = backtick then [backtick, backtick] else [c]

/-- A name as it is written: bare if it is an identifier, else between backticks. -/
def nameToken (s : List Char) : List Char :=
  if isIdentifier s then s else backtick :: doubleBackticks s ++ [backtick]

example : nameToken "first_name".toList = "first_name".toList := by decide +kernel

example : nameToken "a\x60b".toList = "\x60a\x60\x60b\x60".toList := by decide +kernel

end GraphQuery.Text
