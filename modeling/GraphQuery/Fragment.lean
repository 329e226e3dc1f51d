import GraphQuery.Parameter

/-!
# Fragments

Query text in which parameters are still handles. Names are put in once, against the table that
finally holds the parameters. A fragment has no empty text in it and no two texts side by side, so
it is empty exactly when nothing was put into it.
-/

namespace GraphQuery

inductive Segment
  | text (s : String)
  | param (h : Handle)
deriving DecidableEq, Repr

structure Fragment where
  segments : List Segment
deriving DecidableEq, Repr

namespace Fragment

def empty : Fragment := ⟨[]⟩

def isEmpty (f : Fragment) : Bool :=
  f.segments.isEmpty

/-- Puts a segment in front of others: empty text vanishes, and text runs on into text. -/
def consSegment : Segment → List Segment → List Segment
  | .text s, rest =>
    if s = "" then rest
    else match rest with
      | .text t :: more => .text (s ++ t) :: more
      | _ => .text s :: rest
  | .param h, rest => .param h :: rest

def append (f g : Fragment) : Fragment :=
  ⟨f.segments.foldr consSegment g.segments⟩

instance : Append Fragment := ⟨append⟩

def text (s : String) : Fragment :=
  ⟨consSegment (.text s) []⟩

def param (h : Handle) : Fragment :=
  ⟨[.param h]⟩

def join (separator : String) : List Fragment → Fragment
  | [] => empty
  | [f] => f
  | f :: rest => f ++ text separator ++ join separator rest

def parenthesized (f : Fragment) : Fragment :=
  text "(" ++ f ++ text ")"

def handles (f : Fragment) : List Handle :=
  f.segments.filterMap fun
    | .text _ => none
    | .param h => some h

def display (f : Fragment) : String :=
  String.join (f.segments.map fun
    | .text s => s
    | .param h => "$\x7b" ++ h.text ++ "\x7d")

/-- Why a fragment has no final text: it refers to a parameter that the table does not hold. -/
structure Dangling where
  handle : Handle
deriving DecidableEq, Repr

def Dangling.message (e : Dangling) : String :=
  "Fragment references parameter " ++ e.handle.text ++ " which is not in the table"

/-- The text of segments, each handle being replaced by the placeholder of its parameter. -/
def resolve (t : ParameterTable) : List Segment → Except Dangling String
  | [] => .ok ""
  | .text s :: rest => (resolve t rest).map (s ++ ·)
  | .param h :: rest =>
    match t.get? h with
    | some p => (resolve t rest).map (p.placeholder ++ ·)
    | none => .error ⟨h⟩

/-- The final text of a fragment, names being looked up in a table. -/
def finalize (f : Fragment) (t : ParameterTable) : Except Dangling String :=
  resolve t f.segments

end Fragment

end GraphQuery
