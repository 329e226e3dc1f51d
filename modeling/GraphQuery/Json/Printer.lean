import GraphQuery.Decimal.Layout
import GraphQuery.Json.Value

/-!
# Printing JSON

Numbers have one text each. Values are printed compactly, without any white space, or with one
item or member a line, indented by two spaces a level.
-/

namespace GraphQuery.Json

/-- The decimal digits of an integer, after its sign if it is negative. -/
def intText (n : Int) : List Char :=
  if n < 0 then '-' :: Nat.toDigits 10 n.natAbs else Nat.toDigits 10 n.natAbs

def Number.text : Number → List Char
  | .int n => intText n
  | .float x => Decimal.Layout.compact.text x

def escapeChar (c : Char) : List Char :=
  match c with
  | '"' => ['\\', '"']
  | '\\' => ['\\', '\\']
  | '\x08' => ['\\', 'b']
  | '\x0c' => ['\\', 'f']
  | '\n' => ['\\', 'n']
  | '\r' => ['\\', 'r']
  | '\t' => ['\\', 't']
  | c =>
    if c.toNat < 0x20 then
      ['\\', 'u', '0', '0', Nat.digitChar (c.toNat / 16), Nat.digitChar (c.toNat % 16)]
    else [c]

def stringText (s : String) : String :=
  String.ofList ('"' :: s.toList.flatMap escapeChar ++ ['"'])

mutual

def compact : Json → String
  | .null => "null"
  | .bool b => if b then "true" else "false"
  | .number n => String.ofList n.text
  | .string s => stringText s
  | .array items => "[" ++ ",".intercalate (compactItems items) ++ "]"
  | .object members => "\x7b" ++ ",".intercalate (compactMembers members) ++ "\x7d"

def compactItems : List Json → List String
  | [] => []
  | v :: rest => compact v :: compactItems rest

def compactMembers : List (String × Json) → List String
  | [] => []
  | (key, v) :: rest => (stringText key ++ ":" ++ compact v) :: compactMembers rest

end

/-- Entries between an opening and a closing bracket, one a line; `margin` indents the closing
bracket and `inner` the entries. -/
def block (opening closing margin inner : String) : List String → String
  | [] => opening ++ closing
  | entries =>
    opening ++ "\n" ++ inner ++ (",\n" ++ inner).intercalate entries ++ "\n" ++ margin ++ closing

mutual

/-- A value with one item or member a line, its brackets being indented by `margin`. -/
def prettyAt (margin : String) : Json → String
  | .null => "null"
  | .bool b => if b then "true" else "false"
  | .number n => String.ofList n.text
  | .string s => stringText s
  | .array items => block "[" "]" margin (margin ++ "  ") (prettyItems (margin ++ "  ") items)
  | .object members =>
    block "\x7b" "\x7d" margin (margin ++ "  ") (prettyMembers (margin ++ "  ") members)

def prettyItems (margin : String) : List Json → List String
  | [] => []
  | v :: rest => prettyAt margin v :: prettyItems margin rest

def prettyMembers (margin : String) : List (String × Json) → List String
  | [] => []
  | (key, v) :: rest => (stringText key ++ ": " ++ prettyAt margin v) :: prettyMembers margin rest

end

def pretty : Json → String :=
  prettyAt ""

end GraphQuery.Json
