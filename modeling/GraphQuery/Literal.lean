import GraphQuery.Json.Printer
import GraphQuery.Text.Identifier
import GraphQuery.Text.Quoted

/-!
# Literals

Values written out in query text, for people to read: lists in square brackets, maps in braces
with their keys as names, strings in single quotes. A script can be shown with every placeholder
replaced by the literal of its value.
-/

namespace GraphQuery

namespace Literal

mutual

def text : Json → List Char
  | .null => "null".toList
  | .bool b => if b then "true".toList else "false".toList
  | .number n => n.text
  | .string s => Text.quoted s.toList
  | .array items => '[' :: itemsText items ++ [']']
  | .object members => '\x7b' :: membersText members ++ ['\x7d']

def itemsText : List Json → List Char
  | [] => []
  | v :: rest => text v ++ if rest.isEmpty then [] else ", ".toList ++ itemsText rest

def membersText : List (String × Json) → List Char
  | [] => []
  | (key, v) :: rest =>
    Text.nameToken key.toList ++ ": ".toList ++ text v ++
      if rest.isEmpty then [] else ", ".toList ++ membersText rest

end

end Literal

def Json.literal (v : Json) : String :=
  String.ofList (Literal.text v)

namespace Literal

/-- Whether the name of a placeholder may start with a character. -/
def startsName (c : Char) : Bool :=
  c.isAlpha || c = '_'

/-- Whether the name of a placeholder may go on with a character. -/
def continuesName (c : Char) : Bool :=
  c.isAlphanum || c = '_'

/-- The longest name of a placeholder that text starts with, empty if there is none. -/
def leadingName : List Char → List Char
  | [] => []
  | c :: rest => if startsName c then c :: rest.takeWhile continuesName else []

/-- What is written for a placeholder: the literal of its value, or itself if it has none. -/
def substitute (params : List (String × Json)) (name : List Char) : List Char :=
  match params.lookup (String.ofList name) with
  | some v => text v
  | none => '$' :: name

/-- Text with every placeholder that has a value replaced by the literal. A literal is not looked
through again. -/
def interpolate (params : List (String × Json)) : List Char → List Char
  | [] => []
  | c :: rest =>
    if c = '$' ∧ leadingName rest ≠ [] then
      substitute params (leadingName rest) ++
        interpolate params (rest.drop (leadingName rest).length)
    else c :: interpolate params rest
termination_by s => s.length
decreasing_by all_goals simp only [List.length_drop, List.length_cons]; omega

def listing (params : List (String × Json)) : String :=
  "\x7b" ++ ", ".intercalate (params.map fun (name, v) => name ++ "=" ++ v.literal) ++ "\x7d"

end Literal

end GraphQuery
