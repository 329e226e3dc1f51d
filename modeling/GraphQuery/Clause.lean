import GraphQuery.Pattern.Basic
import GraphQuery.Query

/-!
# Clauses and statements

A clause is text together with the parameters that it refers to. A statement puts clauses one
under the other and merges their parameters, which may rename them; the text follows, since it
refers to parameters by their handles.
-/

namespace GraphQuery

structure Clause where
  fragment : Fragment
  table : ParameterTable
deriving Repr

inductive PatternKeyword
  | matching
  | optionalMatching
  | creating
  | merging
deriving DecidableEq, Repr

def PatternKeyword.text : PatternKeyword → String
  | .matching => "MATCH"
  | .optionalMatching => "OPTIONAL MATCH"
  | .creating => "CREATE"
  | .merging => "MERGE"

/-- How the conditions in a clause of patterns are bound: what is matched has single properties,
what is written has whole maps. -/
def PatternKeyword.mode : PatternKeyword → ConditionMode
  | .matching | .optionalMatching => .expanded
  | .creating | .merging => .condensed

namespace Clause

def size (c : Clause) : Nat :=
  c.table.size

def compile (c : Clause) : Except Fragment.Dangling Query :=
  Query.ofFragment c.fragment c.table

def ofPattern (p : Pattern) : Clause :=
  ⟨p.build, p.table⟩

def raw (text : String) : Clause :=
  ⟨.text text, .empty⟩

/-- A filter by a condition, with no text at all if the condition has none. -/
def filter (c : Condition) (next : Nat) : Clause × Nat :=
  let rendered := c.render .none "" (.fresh next)
  let fragment := if rendered.1.isEmpty then .empty else .text "WHERE " ++ rendered.1
  (⟨fragment, rendered.2.table⟩, rendered.2.next)

/-- The text of a path whose patterns are put into a mode one after the other, together with a
table that takes over their parameters. -/
def path (mode : ConditionMode) : List Pattern → Scope → Fragment × Scope
  | [], s => (.empty, s)
  | p :: rest, s =>
    let changed := p.setMode mode s.next
    let others := path mode rest ⟨s.table.merge changed.1.table, changed.2⟩
    (changed.1.build ++ others.1, others.2)

def paths (mode : ConditionMode) : List (List Pattern) → Scope → List Fragment × Scope
  | [], s => ([], s)
  | first :: rest, s =>
    let head := path mode first s
    let others := paths mode rest head.2
    (head.1 :: others.1, others.2)

def ofPaths (keyword : PatternKeyword) (ps : List (List Pattern)) (next : Nat) : Clause × Nat :=
  let texts := paths keyword.mode ps (.fresh next)
  (⟨.text (keyword.text ++ " ") ++ Fragment.join ", " texts.1, texts.2.table⟩, texts.2.next)

end Clause

structure Statement where
  clauses : List Fragment
  table : ParameterTable
deriving Repr

namespace Statement

def empty : Statement := ⟨[], .empty⟩

/-- A statement with one more clause, which counts only if it has text. -/
def attach (s : Statement) (c : Clause) : Statement :=
  ⟨if c.fragment.isEmpty then s.clauses else s.clauses ++ [c.fragment], s.table.merge c.table⟩

def toClause (s : Statement) : Clause :=
  ⟨Fragment.join "\n" s.clauses, s.table⟩

end Statement

end GraphQuery
