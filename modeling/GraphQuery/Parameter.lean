import GraphQuery.Json.Value
import GraphQuery.Naming.Unique

/-!
# Parameters

Every value that a query mentions is kept under a name of its own in a table, in the order in
which the values arrived. Text refers to a parameter by its handle, which never changes, so that a
parameter may be renamed when tables are merged.
-/

namespace GraphQuery

structure Handle where
  index : Nat
deriving DecidableEq, Repr

def Handle.text (h : Handle) : String :=
  "ParamId(" ++ toString h.index ++ ")"

structure Parameter where
  handle : Handle
  name : String
  value : Json
deriving Repr

def Parameter.placeholder (p : Parameter) : String :=
  "$" ++ p.name

structure ParameterTable where
  entries : List Parameter
deriving Repr

namespace ParameterTable

def empty : ParameterTable := ⟨[]⟩

def names (t : ParameterTable) : List String :=
  t.entries.map (·.name)

def handles (t : ParameterTable) : List Handle :=
  t.entries.map (·.handle)

def size (t : ParameterTable) : Nat :=
  t.entries.length

def get? (t : ParameterTable) (h : Handle) : Option Parameter :=
  t.entries.find? (·.handle = h)

def named? (t : ParameterTable) (name : String) : Option Parameter :=
  t.entries.find? (·.name = name)

def values (t : ParameterTable) : List (String × Json) :=
  Json.ofPairs (t.entries.map fun p => (p.name, p.value))

/-- A table with one more parameter, under a name derived from the parameter's own that no other
parameter has. -/
def adopt (t : ParameterTable) (p : Parameter) : ParameterTable :=
  ⟨t.entries ++ [{ p with name := Naming.uniqueName p.name t.names }]⟩

def merge (t other : ParameterTable) : ParameterTable :=
  other.entries.foldl adopt t

def removeNamed (t : ParameterTable) (name : String) : ParameterTable :=
  ⟨t.entries.eraseP (·.name = name)⟩

def remove (t : ParameterTable) (h : Handle) : ParameterTable :=
  ⟨t.entries.eraseP (·.handle = h)⟩

@[simp] theorem names_empty : empty.names = [] := rfl

@[simp] theorem handles_empty : empty.handles = [] := rfl

@[simp] theorem names_adopt (t : ParameterTable) (p : Parameter) :
    (t.adopt p).names = t.names ++ [Naming.uniqueName p.name t.names] := by
  simp [adopt, names]

@[simp] theorem handles_adopt (t : ParameterTable) (p : Parameter) :
    (t.adopt p).handles = t.handles ++ [p.handle] := by
  simp [adopt, handles]

@[simp] theorem size_adopt (t : ParameterTable) (p : Parameter) :
    (t.adopt p).size = t.size + 1 := by
  simp [adopt, size]

end ParameterTable

def defaultParameterName : String :=
  String.ofList Naming.defaultStem

/-- A table that is being filled, with the supply of handles: those from `next` on are free. -/
structure Scope where
  table : ParameterTable
  next : Nat

namespace Scope

/-- Stores a value under a fresh handle, with a name derived from the requested one. -/
def allocate (s : Scope) (value : Json) (requested : Option String) : Handle × Scope :=
  let handle := ⟨s.next⟩
  (handle, ⟨s.table.adopt ⟨handle, requested.getD defaultParameterName, value⟩, s.next + 1⟩)

end Scope

end GraphQuery
