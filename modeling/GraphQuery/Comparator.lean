import GraphQuery.Fragment
import GraphQuery.Json.Printer

/-!
# Comparators

A comparator is a test on one field. It stores the values it needs in the table and gives the text
of the comparison. An operand is a value, which is stored, or a reference to another field, whose
text is written as it is.
-/

namespace GraphQuery

inductive Operator
  | equals
  | greaterThan
  | greaterEqualTo
  | lessThan
  | lessEqualTo
  | startsWith
  | endsWith
  | contains
  | inArray
  | matchesPattern
deriving DecidableEq, Repr

def Operator.symbol : Operator → String
  | .equals => "="
  | .greaterThan => ">"
  | .greaterEqualTo => ">="
  | .lessThan => "<"
  | .lessEqualTo => "<="
  | .startsWith => "STARTS WITH"
  | .endsWith => "ENDS WITH"
  | .contains => "CONTAINS"
  | .inArray => "IN"
  | .matchesPattern => "=~"

inductive Operand
  | value (v : Json)
  | reference (text : String)
deriving Repr

namespace Operand

/-- The operand taken as a reference: a string names the field, another value is written as
JSON. -/
def toReference : Operand → Operand
  | .value (.string s) => .reference s
  | .value v => .reference v.compact
  | .reference text => .reference text

/-- The text of an operand, which asks for a parameter name if it is stored. -/
def render (name : String) : Operand → Scope → Fragment × Scope
  | .value v, s => (.param (s.allocate v (some name)).1, (s.allocate v (some name)).2)
  | .reference text, s => (.text text, s)

end Operand

inductive Comparator
  | binary (operator : Operator) (operand : Operand)
  | between (lower upper : Operand) (lowerInclusive upperInclusive : Bool)
  | hasLabel (label : String)
  | isPresent
  | isNull
  | custom (render : String → Scope → Fragment × Scope)

namespace Comparator

/-- A comparison by a pattern, in which a mark in front makes letters match in either case. -/
def regexp (pattern : String) (insensitive : Bool) : Comparator :=
  .binary .matchesPattern (.value (.string (if insensitive then "(?i)" ++ pattern else pattern)))

def withReferences : Comparator → Comparator
  | .binary operator operand => .binary operator operand.toReference
  | .between lower upper lowerInclusive upperInclusive =>
    .between lower.toReference upper.toReference lowerInclusive upperInclusive
  | c => c

/-- A call on the field that is compared with a value stored under a name. -/
def callExceeds (function : String) (value : Json) (name : String) : Comparator :=
  .custom fun field s =>
    let stored := s.allocate value (some name)
    (.text (function ++ "(" ++ field ++ ") > ") ++ .param stored.1, stored.2)

def silent : Comparator :=
  .custom fun _ s => (.empty, s)

def parameterName (field : String) : String :=
  String.ofList (field.toList.reverse.takeWhile (· ≠ '.')).reverse

def render (field : String) : Comparator → Scope → Fragment × Scope
  | .binary operator operand, s =>
    let right := operand.render (parameterName field) s
    (.text (field ++ " " ++ operator.symbol ++ " ") ++ right.1, right.2)
  | .between lower upper lowerInclusive upperInclusive, s =>
    let low := lower.render ("lower_" ++ parameterName field) s
    let high := upper.render ("upper_" ++ parameterName field) low.2
    (.text (field ++ (if lowerInclusive then " >= " else " > ")) ++ low.1 ++
      .text (" AND " ++ field ++ (if upperInclusive then " <= " else " < ")) ++ high.1, high.2)
  | .hasLabel label, s => (.text (field ++ ":" ++ label), s)
  | .isPresent, s => (.text ("exists(" ++ field ++ ")"), s)
  | .isNull, s => (.text (field ++ " IS NULL"), s)
  | .custom render, s => render field s

end Comparator

end GraphQuery
