import GraphQuery.Fragment
import GraphQuery.Text.Identifier

/-!
# Conditions inside a pattern

The property map of a pattern is bound to parameters in one of two modes: expanded, with one
parameter for each property, or condensed, with one parameter that holds the whole map. Changing
the mode first removes the parameters of the old binding.
-/

namespace GraphQuery

inductive ConditionMode
  | expanded
  | condensed
deriving DecidableEq, Repr

inductive Binding
  | unbound
  | expanded (entries : List (String × Handle))
  | condensed (handle : Handle)
deriving DecidableEq, Repr

def Binding.handles : Binding → List Handle
  | .unbound => []
  | .expanded entries => entries.map (·.2)
  | .condensed handle => [handle]

structure PatternConditions where
  fields : List (String × Json)
  mode : ConditionMode
  binding : Binding
deriving Repr

namespace PatternConditions

def condensedName : String := "conditions"

def allocateFields : List (String × Json) → Scope → List (String × Handle) × Scope
  | [], s => ([], s)
  | (key, v) :: rest, s =>
    let first := s.allocate v (some key)
    let others := allocateFields rest first.2
    ((key, first.1) :: others.1, others.2)

def handles (c : PatternConditions) : List Handle :=
  c.binding.handles

def release (c : PatternConditions) (t : ParameterTable) : PatternConditions × ParameterTable :=
  ({ c with binding := .unbound }, c.handles.foldl ParameterTable.remove t)

/-- Binds the conditions anew in their mode. A map without fields owns nothing. -/
def rebind (c : PatternConditions) (s : Scope) : PatternConditions × Scope :=
  let free : Scope := { s with table := (c.release s.table).2 }
  if c.fields = [] then ({ c with binding := .unbound }, free)
  else match c.mode with
    | .expanded =>
      let stored := allocateFields c.fields free
      ({ c with binding := .expanded stored.1 }, stored.2)
    | .condensed =>
      let stored := free.allocate (.object c.fields) (some condensedName)
      ({ c with binding := .condensed stored.1 }, stored.2)

def bind (fields : List (String × Json)) (mode : ConditionMode) (s : Scope) :
    PatternConditions × Scope :=
  rebind ⟨fields, mode, .unbound⟩ s

/-- Changes the mode; the mode that is already set changes nothing. -/
def setMode (c : PatternConditions) (mode : ConditionMode) (s : Scope) :
    PatternConditions × Scope :=
  if c.mode = mode then (c, s) else rebind { c with mode } s

/-- A key with a reference to the parameter that holds its value. -/
def entryFragment (entry : String × Handle) : Fragment :=
  .text (String.ofList (Text.nameToken entry.1.toList) ++ ": ") ++ .param entry.2

/-- The text of the conditions: a map of placeholders, a single placeholder, or nothing. -/
def render (c : PatternConditions) : Fragment :=
  match c.binding with
  | .unbound => .empty
  | .expanded entries =>
    .text "\x7b " ++ Fragment.join ", " (entries.map entryFragment) ++ .text " \x7d"
  | .condensed handle => .param handle

end PatternConditions

end GraphQuery
