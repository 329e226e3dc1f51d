import GraphQuery.Condition.Basic

/-!
# Condition documents

A condition may be given as a JSON value. An array is a disjunction, an object whose keys are
field names is a conjunction over those fields, and any other value stands for itself. An object
whose keys all start with `$` holds operators, which are joined by conjunction when there are
several:

* `$and` with an object, `$or` and `$xor` with an array, `$not` with any condition;
* `$eq` `$gt` `$gte` `$lt` `$lte` `$startsWith` `$endsWith` `$contains` with a value, `$in` with
  an array, `$regex` and `$iregex` with a pattern;
* `$between` with two bounds, as an array or as an object;
* `$hasLabel` with a label, `$exists` and `$isNull` with `true`.

A value of the form `{"$field": "n.other"}` is a reference to another field.
-/

namespace GraphQuery

inductive Expectation
  | object
  | array
  | string
  | pattern
  | true
  | bounds
deriving DecidableEq, Repr

def Expectation.text : Expectation → String
  | .object => "an object"
  | .array => "an array"
  | .string => "a string"
  | .pattern => "a string pattern"
  | .true => "true"
  | .bounds => "[lower, upper] or an object"

inductive DocumentError
  | tooDeep (limit : Nat)
  | mixedKeys
  | expected (operator : String) (what : Expectation)
  | missingLower
  | missingUpper
  | notBoolean (key : String)
  | mixedBounds
  | unknownOperator (operator : String)
deriving DecidableEq, Repr

def DocumentError.reason : DocumentError → String
  | .tooDeep limit => "nesting exceeds the maximum depth of " ++ toString limit
  | .mixedKeys => "operator keys cannot be mixed with field keys"
  | .expected operator what => operator ++ " expects " ++ what.text
  | .missingLower => "$between requires a lower bound"
  | .missingUpper => "$between requires an upper bound"
  | .notBoolean key => "$between " ++ key ++ " must be a boolean"
  | .mixedBounds => "$between bounds must both be values or both be field references"
  | .unknownOperator operator => "unknown operator " ++ operator

def DocumentError.message (e : DocumentError) : String :=
  "Invalid conditions: " ++ e.reason

def Operand.ofJson : Json → Operand
  | .object [("$field", .string text)] => .reference text
  | v => .value v

def Operand.isReference : Operand → Bool
  | .value _ => false
  | .reference _ => true

namespace Comparator

/-- The comparison that an operator with a plain operand stands for. -/
def plainOperator? : String → Option Operator
  | "$eq" => some .equals
  | "$gt" => some .greaterThan
  | "$gte" => some .greaterEqualTo
  | "$lt" => some .lessThan
  | "$lte" => some .lessEqualTo
  | "$startsWith" => some .startsWith
  | "$endsWith" => some .endsWith
  | "$contains" => some .contains
  | _ => none

def boundFlag (members : List (String × Json)) (key : String) :
    Except DocumentError (Option Bool) :=
  match members.lookup key with
  | none => .ok none
  | some (.bool b) => .ok (some b)
  | some _ => .error (.notBoolean key)

/-- A test for a range, whose bounds are both values or both references. -/
def betweenBounds (lower upper : Json) (lowerInclusive upperInclusive : Bool) :
    Except DocumentError Comparator :=
  let low := Operand.ofJson lower
  let high := Operand.ofJson upper
  if low.isReference = high.isReference then
    .ok (.between low high lowerInclusive upperInclusive)
  else .error .mixedBounds

/-- The range test that a value describes. The lower bound is included unless the object says
otherwise, and the upper bound goes by the lower one. -/
def betweenOfJson : Json → Except DocumentError Comparator
  | .array [lower, upper] => betweenBounds lower upper true true
  | .object members => do
    let some lower := members.lookup "lower" | .error .missingLower
    let some upper := members.lookup "upper" | .error .missingUpper
    let lowerInclusive := (← boundFlag members "lowerInclusive").getD true
    let upperInclusive := (← boundFlag members "upperInclusive").getD lowerInclusive
    betweenBounds lower upper lowerInclusive upperInclusive
  | _ => .error (.expected "$between" .bounds)

/-- The pattern test that a value describes; a reference counts as its own text. -/
def patternOfJson (operator : String) (insensitive : Bool) (v : Json) :
    Except DocumentError Comparator :=
  match Operand.ofJson v with
  | .value (.string pattern) => .ok (regexp pattern insensitive)
  | .reference pattern => .ok (regexp pattern insensitive).withReferences
  | _ => .error (.expected operator .pattern)

def membershipOfJson (operator : String) (v : Json) : Except DocumentError Comparator :=
  match Operand.ofJson v with
  | .value (.array items) => .ok (.binary .inArray (.value (.array items)))
  | .reference text => .ok (.binary .inArray (.reference text))
  | _ => .error (.expected operator .array)

/-- The test that an operator without conditions in it describes. -/
def ofOperator (operator : String) (v : Json) : Except DocumentError Comparator :=
  match operator, v with
  | "$between", v => betweenOfJson v
  | "$hasLabel", .string label => .ok (.hasLabel label)
  | "$hasLabel", _ => .error (.expected operator .string)
  | "$exists", .bool true => .ok .isPresent
  | "$exists", _ => .error (.expected operator .true)
  | "$isNull", .bool true => .ok .isNull
  | "$isNull", _ => .error (.expected operator .true)
  | "$in", v => membershipOfJson operator v
  | "$regex", v => patternOfJson operator false v
  | "$iregex", v => patternOfJson operator true v
  | operator, v =>
    match plainOperator? operator with
    | some plain => .ok (.binary plain (Operand.ofJson v))
    | none => .error (.unknownOperator operator)

end Comparator

namespace Condition

def isOperatorKey (key : String) : Bool :=
  key.toList.head? = some '$'

def allOperators : List (String × Condition) → Condition
  | [(_, c)] => c
  | children => .junction .and children

mutual

/-- The condition that a value describes at a depth of nesting, which must not exceed the limit. -/
def classify (limit depth : Nat) (v : Json) : Except DocumentError Condition :=
  if limit < depth then .error (.tooDeep limit)
  else match v with
    | .array items => (classifyItems limit (depth + 1) items).map (.junction .or)
    | .object members =>
      if members ≠ [] ∧ members.all fun member => isOperatorKey member.1 then
        (classifyOperators limit depth members).map allOperators
      else if members.any fun member => isOperatorKey member.1 then .error .mixedKeys
      else (classifyFields limit (depth + 1) members).map (.junction .and)
    | v => .ok (.scalar v)

def classifyItems (limit depth : Nat) :
    List Json → Except DocumentError (List (String × Condition))
  | [] => .ok []
  | v :: rest => do
    let c ← classify limit depth v
    let others ← classifyItems limit depth rest
    return ("", c) :: others

def classifyFields (limit depth : Nat) :
    List (String × Json) → Except DocumentError (List (String × Condition))
  | [] => .ok []
  | (key, v) :: rest => do
    let c ← classify limit depth v
    let others ← classifyFields limit depth rest
    return (key, c) :: others

def classifyOperators (limit depth : Nat) :
    List (String × Json) → Except DocumentError (List (String × Condition))
  | [] => .ok []
  | (operator, v) :: rest => do
    let c ← match operator, v with
      | "$and", .object members =>
        (classifyFields limit (depth + 1) members).map (Condition.junction .and)
      | "$and", _ => .error (.expected operator .object)
      | "$or", .array items =>
        (classifyItems limit (depth + 1) items).map (Condition.junction .or)
      | "$or", _ => .error (.expected operator .array)
      | "$xor", .array items =>
        (classifyItems limit (depth + 1) items).map (Condition.junction .xor)
      | "$xor", _ => .error (.expected operator .array)
      | "$not", v => (classify limit (depth + 1) v).map Condition.not
      | operator, v => (Comparator.ofOperator operator v).map Condition.compare
    let others ← classifyOperators limit depth rest
    return ("", c) :: others

end

/-- The greatest depth of nesting that is accepted unless another limit is given. -/
def defaultMaxDepth : Nat := 64

def ofJson (limit : Nat) (v : Json) : Except DocumentError Condition :=
  classify limit 1 v

end Condition

end GraphQuery
