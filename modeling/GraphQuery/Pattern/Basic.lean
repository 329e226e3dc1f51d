import GraphQuery.Pattern.Arguments
import GraphQuery.Pattern.Conditions

/-!
# Patterns

A node pattern is written `(name:Label1:Label2 { key: $key })` and a relation pattern
`-[name:TYPE1|TYPE2*1..3 { key: $key }]->`. Each pattern has a table of its own for the parameters
of its conditions.
-/

namespace GraphQuery

inductive Direction
  | incoming
  | outgoing
  | either
deriving DecidableEq, Repr

def Direction.arrows : Direction → String × String
  | .incoming => ("<-", "-")
  | .outgoing => ("-", "->")
  | .either => ("-", "-")

inductive PathLength
  | any
  | exact (n : Nat)
  | range (min max : Option Nat)
deriving DecidableEq, Repr

def PathLength.boundText (bound : Option Nat) : String :=
  (bound.map toString).getD ""

def PathLength.text : PathLength → String
  | .any => "*"
  | .exact n => "*" ++ toString n
  | .range min max => "*" ++ boundText min ++ ".." ++ boundText max

inductive Shape
  | node
  | relation (direction : Direction) (length : Option PathLength)
deriving DecidableEq, Repr

/-- What is written between labels: a node has all of them, a relation one of them. -/
def Shape.labelSeparator : Shape → String
  | .node => ":"
  | .relation _ _ => "|"

def Shape.lengthText : Shape → String
  | .relation _ (some length) => length.text
  | _ => ""

structure Pattern where
  shape : Shape
  name : String
  labels : List String
  conditions : PatternConditions
  table : ParameterTable
deriving Repr

namespace Pattern

/-- A pattern whose conditions are bound in expanded mode, and the next free handle. -/
def ofArguments (shape : Shape) (args : PatternArguments) (next : Nat) : Pattern × Nat :=
  let bound := PatternConditions.bind args.conditions .expanded ⟨.empty, next⟩
  (⟨shape, args.name, args.labels, bound.1, bound.2.table⟩, bound.2.next)

def setMode (p : Pattern) (mode : ConditionMode) (next : Nat) : Pattern × Nat :=
  let bound := p.conditions.setMode mode ⟨p.table, next⟩
  ({ p with conditions := bound.1, table := bound.2.table }, bound.2.next)

def head (p : Pattern) : String :=
  let labels := p.labels.map fun label => String.ofList (Text.nameToken label.toList)
  let labelText := if p.labels = [] then "" else ":" ++ p.shape.labelSeparator.intercalate labels
  p.name ++ labelText ++ p.shape.lengthText

def inner (p : Pattern) : Fragment :=
  let conditions := p.conditions.render
  if conditions.isEmpty then .text p.head
  else .text (if p.head = "" then "" else p.head ++ " ") ++ conditions

/-- The text of a pattern. A relation without content has no brackets. -/
def build (p : Pattern) : Fragment :=
  match p.shape with
  | .node => .text "(" ++ p.inner ++ .text ")"
  | .relation direction _ =>
    let bracketed := if p.inner.isEmpty then .empty else .text "[" ++ p.inner ++ .text "]"
    .text direction.arrows.1 ++ bracketed ++ .text direction.arrows.2

end Pattern

end GraphQuery
