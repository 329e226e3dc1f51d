import GraphQuery.CommandLine.Arguments
import GraphQuery.Settings

/-!
# Running a command

The arguments are read first, then the settings, and then the command is carried out.
-/

namespace GraphQuery.CommandLine

inductive Failure
  | usage (refusal : Refusal)
  | settings (file : String) (error : SettingsError)
  | conditionsNotJson
  | document (error : DocumentError)
  | argument (error : ArgumentError)
  | dangling (error : Fragment.Dangling)
  | unknownCommand (name : String)
deriving DecidableEq, Repr

def Refusal.message : Refusal → String
  | .help => "help"
  | .version => "version"
  | .invalid => "invalid arguments"

def Failure.message : Failure → String
  | .usage refusal => refusal.message
  | .settings file error => error.message file
  | .conditionsNotJson => "Invalid conditions JSON"
  | .document error => error.message
  | .argument error => error.message
  | .dangling error => error.message
  | .unknownCommand name => "Unknown command: " ++ name

def failWith {ε α : Type} (cause : ε → Failure) : Except ε α → Except Failure α :=
  Except.mapError cause

/-- The JSON value of an argument. -/
def conditionsJson (text : String) : Except Failure Json :=
  match Json.parse? Json.maxNesting text with
  | some v => .ok v
  | none => .error .conditionsNotJson

def interpolatedIf (wanted : Bool) (q : Query) : Option String :=
  if wanted then some q.interpolated else none

def reportCondition (settings : RenderSettings) (conditions : String) (maxDepth : Option Nat)
    (interpolate : Bool) : Except Failure Report := do
  let document ← conditionsJson conditions
  let condition ← failWith .document
    (Condition.ofJson (maxDepth.getD settings.maxDepth) document)
  let query ← failWith .dangling (Clause.filter condition 1).1.compile
  return .condition document query (interpolatedIf (interpolate || settings.interpolate) query)

def reportPattern (settings : RenderSettings) (name : Option String) (labels : List String)
    (conditions : Option String) (relation : Option Direction) (condensed interpolate : Bool) :
    Except Failure Report := do
  let conditions ← match conditions with
    | some text => (conditionsJson text).map some
    | none => pure none
  let labels := if labels = [] then none else some (Json.array (labels.map Json.string))
  let args ← failWith .argument
    (PatternArguments.parse (name.map Json.string) labels conditions)
  let (kind, shape) := match relation with
    | some direction => ("relation", Shape.relation direction none)
    | none => ("node", Shape.node)
  let mode := if condensed then ConditionMode.condensed else .expanded
  let bound := Pattern.ofArguments shape args 1
  let pattern := (bound.1.setMode mode bound.2).1
  let query ← failWith .dangling (Clause.ofPattern pattern).compile
  return .pattern kind mode query (interpolatedIf (interpolate || settings.interpolate) query)

namespace Invocation

def settingsFile (i : Invocation) : String :=
  i.config.getD Settings.defaultFile

/-- The text that a command prints, given the bytes of the settings file if it exists. -/
def run (i : Invocation) (settingsBytes : Option ByteArray) : Except Failure String := do
  let settings ← failWith (.settings i.settingsFile) (Settings.ofFile settingsBytes)
  let report ← match i.command with
    | .filter conditions maxDepth interpolate =>
      reportCondition settings.render conditions maxDepth interpolate
    | .pattern name labels conditions relation condensed interpolate =>
      reportPattern settings.render name labels conditions relation condensed interpolate
    | .unknown name => .error (.unknownCommand name)
  return report.text i.format

end Invocation

end GraphQuery.CommandLine
