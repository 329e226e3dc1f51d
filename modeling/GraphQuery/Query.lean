import GraphQuery.Condition.Document
import GraphQuery.Condition.Render
import GraphQuery.Literal

/-!
# Queries

A finished query is a script with placeholders and the values that belong to them.
-/

namespace GraphQuery

/-- A script and the values of its placeholders, in the order in which they were stored. -/
structure Query where
  script : String
  params : List (String × Json)
deriving Repr

namespace Query

def ofFragment (f : Fragment) (t : ParameterTable) : Except Fragment.Dangling Query :=
  (f.finalize t).map fun script => ⟨script, t.values⟩

def interpolated (q : Query) : String :=
  String.ofList (Literal.interpolate q.params q.script.toList)

end Query

/-- An empty table, with the handles from `next` on free. -/
def Scope.fresh (next : Nat) : Scope :=
  ⟨.empty, next⟩

def Condition.compile (outer : Precedence) (field : String) (c : Condition) :
    Except Fragment.Dangling Query :=
  let rendered := c.render outer field (.fresh 1)
  Query.ofFragment rendered.1 rendered.2.table

end GraphQuery
