import GraphQuery.Condition.Document

/-!
# Settings

Settings are read from a file that need not exist. The file is a JSON object, in which unknown
keys are ignored and missing ones take their defaults; a known key must not be repeated. Instead of
an object there may be an array of the fields in their order, of which the last ones may be
missing.
-/

namespace GraphQuery

open Json (Document)

structure RenderSettings where
  maxDepth : Nat
  interpolate : Bool
deriving DecidableEq, Repr

structure Settings where
  render : RenderSettings
deriving DecidableEq, Repr

inductive SettingsError
  | notText
  | notJson
  | zeroDepth
deriving DecidableEq, Repr

def SettingsError.message (file : String) : SettingsError → String
  | .notText => "Failed to read " ++ file ++ ": stream did not contain valid UTF-8"
  | .notJson => "Invalid JSON in " ++ file
  | .zeroDepth => file ++ ": render.max_depth must be at least 1"

namespace Settings

def defaultRender : RenderSettings := ⟨Condition.defaultMaxDepth, false⟩

def default : Settings := ⟨defaultRender⟩

def defaultFile : String := ".cypher_builder.json"

def keyed? : List (List Nat × Document) → Option (List (String × Document))
  | [] => some []
  | (key, d) :: rest => do
    let key ← Json.decodeCodes? key
    let others ← keyed? rest
    return (String.ofList key, d) :: others

/-- The fields of a record in their order, each one missing or given once. An array may not be
longer than the record. -/
def fields? (names : List String) : Document → Option (List (Option Document))
  | .object members => do
    let members ← keyed? members
    let given := names.map fun name => members.filter (·.1 = name)
    if given.all fun found => found.length ≤ 1 then
      some (given.map fun found => found.head?.map (·.2))
    else none
  | .array items =>
    if items.length ≤ names.length then
      some (items.map some ++ List.replicate (names.length - items.length) none)
    else none
  | _ => none

/-- A natural number of at most 64 bits. -/
def natural? : Document → Option Nat
  | .number numeral =>
    match Json.Number.ofNumeral? numeral with
    | some (.int n) => if 0 ≤ n then some n.toNat else none
    | _ => none
  | _ => none

def flag? : Document → Option Bool
  | .bool b => some b
  | _ => none

def fieldOr {α : Type} (read : Document → Option α) (fallback : α) : Option Document → Option α
  | none => some fallback
  | some d => read d

def renderOfDocument? (d : Document) : Option RenderSettings := do
  let [depth, interpolate] ← fields? ["max_depth", "interpolate"] d | none
  return ⟨← fieldOr natural? defaultRender.maxDepth depth,
    ← fieldOr flag? defaultRender.interpolate interpolate⟩

def ofDocument? (d : Document) : Option Settings := do
  let [render] ← fields? ["render"] d | none
  return ⟨← fieldOr renderOfDocument? defaultRender render⟩

def ofFile : Option ByteArray → Except SettingsError Settings
  | none => .ok default
  | some bytes =>
    match String.fromUTF8? bytes with
    | none => .error .notText
    | some text =>
      match (Document.parse? text.toList).bind ofDocument? with
      | none => .error .notJson
      | some settings => if settings.render.maxDepth = 0 then .error .zeroDepth else .ok settings

/-- The settings as JSON. -/
def toJson (s : Settings) : Json :=
  .object [("render", .object
    [("max_depth", .number (.int s.render.maxDepth)), ("interpolate", .bool s.render.interpolate)])]

end Settings

end GraphQuery
