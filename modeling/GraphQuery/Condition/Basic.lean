import GraphQuery.Comparator

/-!
# Conditions

A condition is a tree of connectives over tests. A junction joins its children by one connective;
each child has a key that extends the path of the field, and the empty key leaves the path as it
is. A value stands for an equality test with that value.
-/

namespace GraphQuery

inductive Connective
  | or
  | xor
  | and
deriving DecidableEq, Repr

inductive Condition
  | scalar (value : Json)
  | compare (comparator : Comparator)
  | junction (connective : Connective) (children : List (String × Condition))
  | not (inner : Condition)

namespace Condition

def or (children : List Condition) : Condition :=
  .junction .or (children.map ("", ·))

/-- An odd number of the conditions hold; all are about the same field. -/
def xor (children : List Condition) : Condition :=
  .junction .xor (children.map ("", ·))

/-- All of the conditions hold, each about the field that its key leads to. -/
def and (children : List (String × Condition)) : Condition :=
  .junction .and children

mutual

def isEmpty : Condition → Bool
  | .scalar _ => false
  | .compare _ => false
  | .junction _ children => allEmpty children
  | .not inner => inner.isEmpty

def allEmpty : List (String × Condition) → Bool
  | [] => true
  | (_, c) :: rest => c.isEmpty && allEmpty rest

end

def live (children : List (String × Condition)) : List (String × Condition) :=
  children.filter fun child => !child.2.isEmpty

def joinField (path key : String) : String :=
  if key = "" then path else if path = "" then key else path ++ "." ++ key

theorem allEmpty_eq (children : List (String × Condition)) :
    allEmpty children = children.all fun child => child.2.isEmpty := by
  induction children with
  | nil => rfl
  | cons child rest ih => obtain ⟨_, c⟩ := child; simp [allEmpty, ih]

theorem live_eq_nil_iff {children : List (String × Condition)} :
    live children = [] ↔ allEmpty children := by
  simp [live, allEmpty_eq]

@[simp] theorem joinField_empty_key (path : String) : joinField path "" = path := by
  simp [joinField]

@[simp] theorem joinField_empty_path (key : String) : joinField "" key = key := by
  by_cases h : key = "" <;> simp [joinField, h]

end Condition

end GraphQuery
