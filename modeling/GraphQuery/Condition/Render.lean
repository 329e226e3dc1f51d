import GraphQuery.Condition.Basic

/-!
# Rendering conditions

Negation binds tighter than conjunction, conjunction than exclusive disjunction, and that tighter
than disjunction. A junction is bracketed only where it has two parts or more and what surrounds
it binds tighter than its own connective. A junction with one live child hands the surrounding
level on to the child, and children that test nothing are left out.
-/

namespace GraphQuery

/-- How tightly the surroundings of a condition bind, from not at all to a negation. -/
inductive Precedence
  | none
  | or
  | xor
  | and
  | not
deriving DecidableEq, Repr

def Precedence.rank : Precedence → Nat
  | .none => 0
  | .or => 1
  | .xor => 2
  | .and => 3
  | .not => 4

def Connective.precedence : Connective → Precedence
  | .or => .or
  | .xor => .xor
  | .and => .and

def Connective.separator : Connective → String
  | .or => " OR "
  | .xor => " XOR "
  | .and => " AND "

namespace Condition

def childPrecedence (outer : Precedence) (connective : Connective)
    (children : List (String × Condition)) : Precedence :=
  if (live children).length < 2 then outer else connective.precedence

/-- The parts of a junction as one text, bracketed where the surroundings bind tighter. -/
def assemble (outer : Precedence) (connective : Connective) (parts : List Fragment) : Fragment :=
  let joined := Fragment.join connective.separator parts
  if 2 ≤ parts.length ∧ connective.precedence.rank < outer.rank then joined.parenthesized
  else joined

mutual

/-- The text of a condition on a field, in surroundings that bind as tightly as `outer`. -/
def render (outer : Precedence) (field : String) : Condition → Scope → Fragment × Scope
  | .scalar value, s =>
    let stored := s.allocate value (some (Comparator.parameterName field))
    (.text (field ++ " = ") ++ .param stored.1, stored.2)
  | .compare comparator, s => comparator.render field s
  | .junction connective children, s =>
    let parts := renderChildren (childPrecedence outer connective children) field children s
    (assemble outer connective parts.1, parts.2)
  | .not inner, s =>
    let operand := render .not field inner s
    (if operand.1.isEmpty then operand.1 else .text "NOT " ++ operand.1, operand.2)

def renderChildren (outer : Precedence) (field : String) :
    List (String × Condition) → Scope → List Fragment × Scope
  | [], s => ([], s)
  | (key, c) :: rest, s =>
    if c.isEmpty then renderChildren outer field rest s
    else
      let first := render outer (joinField field key) c s
      let others := renderChildren outer field rest first.2
      (if first.1.isEmpty then others.1 else first.1 :: others.1, others.2)

end

end Condition

end GraphQuery
