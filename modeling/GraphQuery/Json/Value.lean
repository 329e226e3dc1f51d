import GraphQuery.Decimal.Binary64
import GraphQuery.Json.Document

/-!
# JSON values

Numbers are exact integers of at most 64 bits or floating-point numbers. The members of an object
keep the order in which their keys first appeared; a key that is written again takes the new value
in its old place.
-/

namespace GraphQuery

open Decimal (Binary64)

namespace Json

/-- An integer between `- 2 ^ 63` and `2 ^ 64 - 1`, or a floating-point number. -/
inductive Number
  | int (value : Int)
  | float (value : Binary64)
deriving DecidableEq, Repr, Inhabited

def maxInteger : Nat := 0xFFFFFFFFFFFFFFFF

def minMagnitude : Nat := 0x8000000000000000

/-- The number that a numeral denotes, unless it is too great. Only a numeral without fraction and
power of ten that fits in 64 bits is an integer; minus zero is not. -/
def Number.ofNumeral? (n : Numeral) : Option Number :=
  let float := fun (digits : List Char) (scale : Int) =>
    (Binary64.ofDecimal? n.negative (Nat.ofDigitChars 10 digits 0) scale).map Number.float
  match n.fraction, n.exponent with
  | [], none =>
    let value := Nat.ofDigitChars 10 n.whole 0
    if n.negative then
      if value = 0 ∨ minMagnitude < value then float n.whole 0 else some (.int (-value))
    else if value ≤ maxInteger then some (.int value) else float n.whole 0
  | _, _ => float (n.whole ++ n.fraction) (n.exponent.getD 0 - n.fraction.length)

/-- The text that codes stand for: two surrogate halves make one character, and a half on its own
makes none. -/
def decodeCodes? : List Nat → Option (List Char)
  | [] => some []
  | code :: rest =>
    if 0xD800 ≤ code ∧ code < 0xDC00 then
      match rest with
      | low :: rest =>
        if 0xDC00 ≤ low ∧ low < 0xE000 then
          (decodeCodes? rest).map
            (Char.ofNat (0x10000 + (code - 0xD800) * 0x400 + (low - 0xDC00)) :: ·)
        else none
      | [] => none
    else if 0xDC00 ≤ code ∧ code < 0xE000 then none
    else (decodeCodes? rest).map (Char.ofNat code :: ·)

def putMember {α : Type} (key : String) (value : α) : List (String × α) → List (String × α)
  | [] => [(key, value)]
  | (k, v) :: rest => if k = key then (k, value) :: rest else (k, v) :: putMember key value rest

def ofPairs {α : Type} (pairs : List (String × α)) : List (String × α) :=
  pairs.foldl (fun members (key, value) => putMember key value members) []

end Json

/-- A JSON value. -/
inductive Json
  | null
  | bool (value : Bool)
  | number (value : Json.Number)
  | string (value : String)
  | array (items : List Json)
  | object (members : List (String × Json))
deriving Repr, Inhabited

namespace Json

def typeName : Json → String
  | .null => "null"
  | .bool _ => "boolean"
  | .number _ => "number"
  | .string _ => "string"
  | .array _ => "array"
  | .object _ => "object"

mutual

/-- The value of a document, unless a number in it is too great or a string is no text. -/
def ofDocument? : Document → Option Json
  | .null => some .null
  | .bool b => some (.bool b)
  | .number n => (Number.ofNumeral? n).map .number
  | .string codes => (decodeCodes? codes).map fun s => .string (String.ofList s)
  | .array items => (itemsOfDocuments? items).map .array
  | .object members => (pairsOfDocuments? members).map fun pairs => .object (ofPairs pairs)

def itemsOfDocuments? : List Document → Option (List Json)
  | [] => some []
  | d :: rest => do
    let v ← ofDocument? d
    let vs ← itemsOfDocuments? rest
    return v :: vs

/-- The values of members, with their keys, in the order in which they were written. -/
def pairsOfDocuments? : List (List Nat × Document) → Option (List (String × Json))
  | [] => some []
  | (key, d) :: rest => do
    let key ← decodeCodes? key
    let v ← ofDocument? d
    let pairs ← pairsOfDocuments? rest
    return (String.ofList key, v) :: pairs

end

/-- The greatest depth of arrays and objects inside one another that is read. -/
def maxNesting : Nat := 127

def parse? (maxDepth : Nat) (text : String) : Option Json := do
  let document ← Document.parse? text.toList
  if document.depth ≤ maxDepth then ofDocument? document else none

end Json

end GraphQuery
