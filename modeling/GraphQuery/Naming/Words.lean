import GraphQuery.Unicode.Lowercase
import GraphQuery.Unicode.Numeric

/-!
# Words of a name

A name is cut into words at every character that is neither letter nor numeral, and inside a run
of letters and numerals where the kind of character changes: before a capital that follows a
small letter, between letters and numerals, and before the last capital of an acronym that runs
into a capitalised word (`XMLHttp` is `XML` and `Http`).
-/

namespace GraphQuery.Naming

open Unicode

inductive Kind
  | upper
  | lower
  | digit
deriving DecidableEq, Repr

/-- Numerals are digits, capitals are upper, and letters without case count as lower. -/
def Kind.of (c : Char) : Kind :=
  if isNumeric c then .digit else if isUppercase c then .upper else .lower

/-- Whether a word ends between two neighbours of one run, `next` being what follows them there. -/
def breaksBetween (c d : Char) (next : Option Char) : Bool :=
  match Kind.of c, Kind.of d with
  | .lower, .upper => true
  | .upper, .upper => next.any fun n => Kind.of n = .lower
  | .digit, .digit => false
  | .digit, _ => true
  | _, .digit => true
  | _, .lower => false

/-- Whether the word that holds `c` goes on in the text after it. -/
def continues (c : Char) : List Char → Bool
  | [] => false
  | d :: rest => isAlphanumeric d && !breaksBetween c d (rest.head?.filter isAlphanumeric)

def words : List Char → List (List Char)
  | [] => []
  | c :: rest =>
    if isAlphanumeric c then
      if continues c rest then (words rest).modifyHead (c :: ·) else [c] :: words rest
    else words rest

/-- The words of a text run together: the first in lower case, every other one capitalised. -/
def camelCase (s : List Char) : List Char :=
  match words s with
  | [] => []
  | first :: others => lowercase first ++ others.flatMap capitalize

example : words "XMLHttp_request7".toList =
    ["XML".toList, "Http".toList, "request".toList, "7".toList] := by decide +kernel

example : camelCase "lower_age".toList = "lowerAge".toList := by decide +kernel

end GraphQuery.Naming
