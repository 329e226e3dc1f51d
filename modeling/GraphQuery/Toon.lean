import GraphQuery.Json.Printer
import GraphQuery.Unicode.Blank
import GraphQuery.Unicode.WordCharacter

/-!
# TOON

A compact notation of JSON values, one line for a member or an item. Objects are indented, arrays
carry their length, arrays of values stand on one line, and arrays of objects with the same keys
and plain values are tables. Keys are written in the order of their code points.
-/

namespace GraphQuery.Toon

mutual

/-- A value with the members of every object in it sorted by key. -/
def sorted : Json → Json
  | .array items => .array (sortedItems items)
  | .object members => .object ((sortedMembers members).mergeSort fun a b => a.1 ≤ b.1)
  | v => v

def sortedItems : List Json → List Json
  | [] => []
  | v :: rest => sorted v :: sortedItems rest

def sortedMembers : List (String × Json) → List (String × Json)
  | [] => []
  | (key, v) :: rest => (key, sorted v) :: sortedMembers rest

end

def quoted (s : List Char) : List Char :=
  '"' :: s.flatMap (fun c => match c with
    | '\\' => ['\\', '\\']
    | '"' => ['\\', '"']
    | '\n' => ['\\', 'n']
    | '\r' => ['\\', 'r']
    | '\t' => ['\\', 't']
    | c => [c]) ++ ['"']

/-- Whether a key needs no quotes: an ASCII letter or an underscore, then word characters and
points. -/
def isBareKey : List Char → Bool
  | [] => false
  | c :: rest => (c.isAlpha || c = '_') && rest.all fun c => Unicode.isWordCharacter c || c = '.'

def keyText (key : String) : String :=
  if isBareKey key.toList then key else String.ofList (quoted key.toList)

/-- Text after the decimal digits at its start, if there is at least one. -/
def afterDigits? (s : List Char) : Option (List Char) :=
  if s.head?.any Unicode.isDecimalDigit then some (s.dropWhile Unicode.isDecimalDigit) else none

def afterFraction : List Char → List Char
  | '.' :: rest => (afterDigits? rest).getD ('.' :: rest)
  | s => s

def afterExponent : List Char → List Char
  | 'e' :: rest =>
    let digits := match rest with
      | '+' :: rest | '-' :: rest => rest
      | rest => rest
    (afterDigits? digits).getD ('e' :: rest)
  | s => s

def readsAsNumber (s : List Char) : Bool :=
  let unsigned := match s with
    | '-' :: rest => rest
    | s => s
  match afterDigits? unsigned with
  | some rest => afterExponent (afterFraction rest) = []
  | none => false

def isReserved (c : Char) : Bool :=
  c ∈ [':', '"', '\\', '[', ']', '\x7b', '\x7d', '\n', '\r', '\t', ',']

def needsQuotes (s : List Char) : Bool :=
  s = [] || Unicode.hasBlankEnds s || s ∈ ["true".toList, "false".toList, "null".toList] ||
    readsAsNumber s || s.any isReserved || ['-', ' '].isPrefixOf s

/-- The text of a floating-point number: small whole numbers without a fraction, and no sign on
zero. -/
def floatText (x : Decimal.Binary64) : List Char :=
  match x.toInt? with
  | some n => if n.natAbs < 1000000000000000 then Json.intText n else Decimal.Layout.plain.text x
  | none => Decimal.Layout.plain.text x

/-- The text of a number, which is first rounded to a floating-point number. -/
def numberText : Json.Number → List Char
  | .int n => floatText (.ofInt n)
  | .float x => floatText x

/-- The text of a value that is neither array nor object, if it is one. -/
def plain? : Json → Option String
  | .null => some "null"
  | .bool b => some (if b then "true" else "false")
  | .number n => some (String.ofList (numberText n))
  | .string s => some (if needsQuotes s.toList then String.ofList (quoted s.toList) else s)
  | .array _ => none
  | .object _ => none

def plainTexts? : List Json → Option (List String)
  | [] => some []
  | v :: rest => do return (← plain? v) :: (← plainTexts? rest)

def isObject : Json → Bool
  | .object _ => true
  | _ => false

def plainArray? : Json → Option (List String)
  | .array items => plainTexts? items
  | _ => none

def indent (depth : Nat) : String :=
  String.ofList (List.replicate (2 * depth) ' ')

/-- The head of an array: its key if it has one, its length, and its columns if it is a table. -/
def header (key : Option String) (length : Nat) (columns : List String) : String :=
  let columnText := if columns = [] then ""
    else "\x7b" ++ ",".intercalate (columns.map keyText) ++ "\x7d"
  (key.map keyText).getD "" ++ "[" ++ toString length ++ "]" ++ columnText ++ ":"

def inlineArray (key : Option String) (values : List String) : String :=
  header key values.length [] ++ if values = [] then "" else " " ++ ",".intercalate values

/-- The rows of a table with the given columns, if all items are objects with just these keys and
plain values. -/
def rows? (columns : List String) : List Json → Option (List String)
  | [] => some []
  | .object members :: rest => do
    if members.map (·.1) ≠ columns then none
    let values ← plainTexts? (members.map (·.2))
    return ",".intercalate values :: (← rows? columns rest)
  | _ :: _ => none

def table? : List Json → Option (List String × List String)
  | .object (first :: others) :: rest => do
    let columns := (first :: others).map (·.1)
    return (columns, ← rows? columns (.object (first :: others) :: rest))
  | _ => none

def tableLines (depth : Nat) (lead : String) (key : Option String) (length : Nat)
    (table : List String × List String) : List String :=
  (lead ++ header key length table.1) :: table.2.map (indent (depth + 1) ++ ·)

def arrayLines (key : Option String) (depth : Nat) (items : List Json) (itemLines : List String) :
    List String :=
  match plainTexts? items with
  | some values => [indent depth ++ inlineArray key values]
  | none =>
    match items.mapM plainArray? with
    | some arrays =>
      (indent depth ++ header key items.length []) ::
        arrays.map fun values => indent (depth + 1) ++ "- " ++ inlineArray none values
    | none =>
      match table? items with
      | some table => tableLines depth (indent depth) key items.length table
      | none => (indent depth ++ header key items.length []) :: itemLines

mutual

def memberLines (depth : Nat) : List (String × Json) → List String
  | [] => []
  | (key, v) :: rest =>
    (match v with
      | .object members => (indent depth ++ keyText key ++ ":") :: memberLines (depth + 1) members
      | .array items => arrayLines (some key) depth items (itemLines (depth + 1) items)
      | v => [indent depth ++ keyText key ++ ": " ++ (plain? v).getD ""]) ++
    memberLines depth rest

/-- The items of a list at a depth. An array that holds more than plain values is left out. -/
def itemLines (depth : Nat) : List Json → List String
  | [] => []
  | v :: rest =>
    (match v with
      | .object members => objectItemLines depth members
      | .array items =>
        match plainTexts? items with
        | some values => [indent depth ++ "- " ++ inlineArray none values]
        | none => []
      | v => [indent depth ++ "- " ++ (plain? v).getD ""]) ++
    itemLines depth rest

/-- An object as an item of a list: its first member stands behind the mark of the item. -/
def objectItemLines (depth : Nat) : List (String × Json) → List String
  | [] => [indent depth ++ "-"]
  | (key, v) :: rest =>
    let lead := indent depth ++ "- "
    (match v with
      | .object members => (lead ++ keyText key ++ ":") :: memberLines (depth + 2) members
      | .array items =>
        match plainTexts? items with
        | some values => [lead ++ inlineArray (some key) values]
        | none =>
          if items.all isObject then
            match table? items with
            | some table => tableLines depth lead (some key) items.length table
            | none => (lead ++ header (some key) items.length []) :: itemLines (depth + 1) items
          else
            (lead ++ header (some key) items.length []) ::
              arrayLines none (depth + 1) items (itemLines (depth + 2) items)
      | v => [lead ++ keyText key ++ ": " ++ (plain? v).getD ""]) ++
    memberLines (depth + 1) rest

end

def encode (members : List (String × Json)) : String :=
  match sorted (.object members) with
  | .object members => "\n".intercalate (memberLines 0 members)
  | _ => ""

end GraphQuery.Toon
