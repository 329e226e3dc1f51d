import GraphQuery.Clause
import GraphQuery.Text.Lines
import GraphQuery.Toon

/-!
# Reports

What is shown of a finished query: as lines for people to read, as JSON, or in the TOON notation.
-/

namespace GraphQuery

inductive ReportFormat
  | table
  | json
  | toon
deriving DecidableEq, Repr

namespace ReportLines

def titled (title body : String) : List String :=
  (title ++ ":") :: (Text.lines body.toList).map fun line => "  " ++ String.ofList line

def parameters : List (String × Json) → List String
  | [] => ["No parameters."]
  | params =>
    ("Parameters (" ++ toString params.length ++ "):") ::
      params.map fun (name, v) => "  $" ++ name ++ " = " ++ v.literal

/-- A script with its parameters and, if wanted, with its values written in. -/
def query (q : Query) (interpolated : Option String) : List String :=
  titled "Script" q.script ++ parameters q.params ++
    (interpolated.map (titled "Interpolated")).getD []

end ReportLines

def Query.members (q : Query) (interpolated : Option String) : List (String × Json) :=
  [("script", .string q.script), ("params", .object q.params)] ++
    (interpolated.map fun text => ("interpolated", Json.string text)).toList

inductive Report
  | condition (document : Json) (query : Query) (interpolated : Option String)
  | pattern (kind : String) (mode : ConditionMode) (query : Query) (interpolated : Option String)
deriving Repr

namespace Report

def modeName : ConditionMode → String
  | .expanded => "expanded"
  | .condensed => "condensed"

def members : Report → List (String × Json)
  | .condition document query interpolated =>
    ("conditions", document) :: query.members interpolated
  | .pattern kind mode query interpolated =>
    ("kind", .string kind) :: ("mode", .string (modeName mode)) :: query.members interpolated

def lines : Report → List String
  | .condition document query interpolated =>
    ["Where: " ++ document.compact, ""] ++
      if query.script = "" then ["No conditions."] else ReportLines.query query interpolated
  | .pattern kind mode query interpolated =>
    ["Pattern: " ++ kind ++ " (" ++ modeName mode ++ " conditions)", ""] ++
      ReportLines.query query interpolated

def text (format : ReportFormat) (r : Report) : String :=
  match format with
  | .table => "\n".intercalate r.lines
  | .json => (Json.object r.members).pretty
  | .toon => Toon.encode r.members

end Report

end GraphQuery
