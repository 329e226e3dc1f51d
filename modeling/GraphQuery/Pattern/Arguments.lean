import GraphQuery.Json.Value
import GraphQuery.Text.Identifier

/-!
# Arguments of a pattern

A pattern is given a name, labels and conditions, each of which may be missing; null counts as
missing. An object in an earlier place counts as the conditions when these are missing, and an
array in the place of the name counts as the labels when these are missing.
-/

namespace GraphQuery

inductive ArgumentError
  | nameNotString (type : String)
  | nameNotIdentifier (name : String)
  | labelNotString (type : String)
  | labelsNotList (type : String)
  | emptyLabel
  | conditionsNotObject (type : String)
deriving DecidableEq, Repr

inductive ArgumentRole
  | name
  | labels
  | conditions
deriving DecidableEq, Repr

def ArgumentError.role : ArgumentError → ArgumentRole
  | .nameNotString _ | .nameNotIdentifier _ => .name
  | .labelNotString _ | .labelsNotList _ | .emptyLabel => .labels
  | .conditionsNotObject _ => .conditions

def ArgumentRole.text : ArgumentRole → String
  | .name => "name"
  | .labels => "labels"
  | .conditions => "conditions"

def ArgumentError.reason : ArgumentError → String
  | .nameNotString type => "name must be a string, got " ++ type
  | .nameNotIdentifier name => "'" ++ name ++ "' is not a valid variable name"
  | .labelNotString type => "labels must be strings, got " ++ type
  | .labelsNotList type => "labels must be a string or an array, got " ++ type
  | .emptyLabel => "labels cannot be empty strings"
  | .conditionsNotObject type => "conditions must be an object, got " ++ type

def ArgumentError.message (e : ArgumentError) : String :=
  "Invalid pattern " ++ e.role.text ++ ": " ++ e.reason

structure PatternArguments where
  name : String
  labels : List String
  conditions : List (String × Json)
deriving Repr

namespace PatternArguments

/-- Accepts a name that is empty or an identifier, with labels none of which is empty. -/
def validate (args : PatternArguments) : Except ArgumentError PatternArguments :=
  if args.name ≠ "" ∧ !Text.isIdentifier args.name.toList then .error (.nameNotIdentifier args.name)
  else if "" ∈ args.labels then .error .emptyLabel
  else .ok args

def present : Option Json → Option Json
  | some .null => none
  | v => v

def nameOf : Option Json → Except ArgumentError String
  | none => .ok ""
  | some (.string s) => .ok s
  | some v => .error (.nameNotString v.typeName)

def labelList : List Json → Except ArgumentError (List String)
  | [] => .ok []
  | .string s :: rest => (labelList rest).map (s :: ·)
  | v :: _ => .error (.labelNotString v.typeName)

def labelsOf : Option Json → Except ArgumentError (List String)
  | none => .ok []
  | some (.string s) => .ok [s]
  | some (.array items) => labelList items
  | some v => .error (.labelsNotList v.typeName)

def conditionsOf : Option Json → Except ArgumentError (List (String × Json))
  | none => .ok []
  | some (.object members) => .ok members
  | some v => .error (.conditionsNotObject v.typeName)

def place (name labels conditions : Option Json) : Option Json × Option Json × Option Json :=
  let (name, labels, conditions) :=
    match name, labels, conditions with
    | name, some (.object members), none => (name, none, some (Json.object members))
    | some (.object members), none, none => (none, none, some (Json.object members))
    | name, labels, conditions => (name, labels, conditions)
  match name, labels with
  | some (.array items), none => (none, some (Json.array items), conditions)
  | name, labels => (name, labels, conditions)

def parse (name labels conditions : Option Json) : Except ArgumentError PatternArguments := do
  let (name, labels, conditions) := place (present name) (present labels) (present conditions)
  let name ← nameOf name
  let labels ← labelsOf labels
  let conditions ← conditionsOf conditions
  validate ⟨name, labels, conditions⟩

end PatternArguments

end GraphQuery
