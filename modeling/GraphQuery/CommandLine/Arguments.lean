import GraphQuery.Report

/-!
# Arguments of the command line

`[options] where CONDITIONS [options]`, `[options] pattern [options]`, or `[options] NAME ...` for
any other name, which is an unknown command. The options `--config` and `--format` are accepted
before and after the command, and those after it win. Options are read from left to right, and the
first thing that is wrong or asks for help decides; only the value of an option right before the
command is looked at after the command's own arguments.
-/

namespace GraphQuery.CommandLine

inductive Refusal
  | help
  | version
  | invalid
deriving DecidableEq, Repr

inductive Key
  | help
  | version
  | config
  | format
  | maxDepth
  | interpolate
  | name
  | labels
  | conditions
  | relation
  | condensed
deriving DecidableEq, Repr

namespace Key

def long : Key → String
  | .help => "help"
  | .version => "version"
  | .config => "config"
  | .format => "format"
  | .maxDepth => "max-depth"
  | .interpolate => "interpolate"
  | .name => "name"
  | .labels => "labels"
  | .conditions => "conditions"
  | .relation => "relation"
  | .condensed => "condensed"

def short? : Key → Option Char
  | .help => some 'h'
  | .version => some 'V'
  | .format => some 'f'
  | .interpolate => some 'i'
  | .name => some 'n'
  | .labels => some 'l'
  | .conditions => some 'c'
  | .relation => some 'r'
  | .config | .maxDepth | .condensed => none

def takesValue : Key → Bool
  | .help | .version | .interpolate | .condensed => false
  | _ => true

end Key

def commonKeys : List Key := [.help, .version, .config, .format]

/-- The options of `where`. -/
def whereKeys : List Key := [.help, .config, .format, .maxDepth, .interpolate]

/-- The options of `pattern`. -/
def patternKeys : List Key :=
  [.help, .config, .format, .name, .labels, .conditions, .relation, .condensed, .interpolate]

structure Options where
  config : Option String
  format : Option ReportFormat
  maxDepth : Option Nat
  interpolate : Bool
  name : Option String
  labels : List String
  conditions : Option String
  relation : Option Direction
  condensed : Bool
  operand : Option String
deriving DecidableEq, Repr

namespace Options

def none : Options :=
  ⟨.none, .none, .none, false, .none, [], .none, .none, false, .none⟩

def format? : String → Option ReportFormat
  | "table" => some .table
  | "json" => some .json
  | "toon" => some .toon
  | _ => .none

def direction? : String → Option Direction
  | "out" => some .outgoing
  | "in" => some .incoming
  | "either" => some .either
  | _ => .none

/-- A limit of nesting: ASCII digits, perhaps after a plus, for a number from 1 to 1024. -/
def limit? (value : String) : Option Nat :=
  let digits := match value.toList with
    | '+' :: rest => rest
    | s => s
  if digits ≠ [] ∧ digits.all Char.isDigit then
    let n := Nat.ofDigitChars 10 digits 0
    if 1 ≤ n ∧ n ≤ 1024 then some n else .none
  else .none

def commaPieces (value : String) : List String :=
  (value.toList.splitOnP (· = ',')).map String.ofList

/-- One value more, unless it is wrong or the option was there before. Labels may come again. -/
def set? (o : Options) (key : Key) (value : String) : Option Options :=
  match key with
  | .config => if o.config.isNone ∧ value ≠ "" then some { o with config := some value } else .none
  | .format =>
    if o.format.isNone then (format? value).map fun f => { o with format := some f } else .none
  | .maxDepth =>
    if o.maxDepth.isNone then (limit? value).map fun n => { o with maxDepth := some n } else .none
  | .name => if o.name.isNone then some { o with name := some value } else .none
  | .labels => some { o with labels := o.labels ++ commaPieces value }
  | .conditions =>
    if o.conditions.isNone then some { o with conditions := some value } else .none
  | .relation =>
    if o.relation.isNone then (direction? value).map fun d => { o with relation := some d }
    else .none
  | .help | .version | .interpolate | .condensed => .none

/-- One flag more, unless it was there before or ends the reading. -/
def raise (o : Options) (key : Key) : Except Refusal Options :=
  match key with
  | .help => .error .help
  | .version => .error .version
  | .interpolate =>
    if o.interpolate then .error .invalid else .ok { o with interpolate := true }
  | .condensed => if o.condensed then .error .invalid else .ok { o with condensed := true }
  | _ => .error .invalid

def set (o : Options) (key : Key) (value : String) : Except Refusal Options :=
  match o.set? key value with
  | some o => .ok o
  | .none => .error .invalid

end Options

inductive Word
  | escape
  | long (name : String) (value : Option String)
  | short (letters : List Char)
  | operand
deriving DecidableEq, Repr

def Word.of (word : String) : Word :=
  match word.toList with
  | ['-', '-'] => .escape
  | '-' :: '-' :: rest =>
    match rest.dropWhile (· ≠ '=') with
    | [] => .long (String.ofList rest) none
    | _ :: value => .long (String.ofList (rest.takeWhile (· ≠ '='))) (some (String.ofList value))
  | '-' :: c :: rest => .short (c :: rest)
  | _ => .operand

/-- What a word with options leaves behind: the options, and the one that still needs a value. -/
abbrev Step := Options × Option Key

def readLong (keys : List Key) (o : Options) (name : String) (value : Option String) :
    Except Refusal Step :=
  match keys.find? (·.long = name), value with
  | some key, some value =>
    if key.takesValue then (o.set key value).map (·, none) else .error .invalid
  | some key, none =>
    if key.takesValue then .ok (o, some key) else (o.raise key).map (·, none)
  | none, _ => .error .invalid

/-- Reads options with one letter each. What follows the letter of an option that has a value is
the value, perhaps after an equals sign. -/
def readShort (keys : List Key) (o : Options) : List Char → Except Refusal Step
  | [] => .ok (o, none)
  | c :: rest =>
    match keys.find? (·.short? = some c) with
    | none => .error .invalid
    | some key =>
      if key.takesValue then
        match rest with
        | [] => .ok (o, some key)
        | '=' :: value => (o.set key (String.ofList value)).map (·, none)
        | value => (o.set key (String.ofList value)).map (·, none)
      else do
        let o ← o.raise key
        readShort keys o rest

def Options.addOperand (takesOperand : Bool) (o : Options) (word : String) :
    Except Refusal Options :=
  if takesOperand ∧ o.operand.isNone then .ok { o with operand := some word } else .error .invalid

def readOperands (takesOperand : Bool) (o : Options) : List String → Except Refusal Options
  | [] => .ok o
  | word :: rest => do
    let o ← o.addOperand takesOperand word
    readOperands takesOperand o rest

/-- Reads the words after a command. An option takes the next word for its value unless that word
starts with a hyphen. -/
def readWords (keys : List Key) (takesOperand : Bool) (o : Options) :
    List String → Except Refusal Options
  | [] => .ok o
  | word :: rest =>
    let go := fun (step : Except Refusal Step) =>
      match step, rest with
      | .error e, _ => .error e
      | .ok (o, none), rest => readWords keys takesOperand o rest
      | .ok (_, some _), [] => .error .invalid
      | .ok (o, some key), value :: rest =>
        match Word.of value with
        | .operand =>
          match o.set key value with
          | .error e => .error e
          | .ok o => readWords keys takesOperand o rest
        | _ => .error .invalid
    match Word.of word with
    | .escape => readOperands takesOperand o rest
    | .long name value => go (readLong keys o name value)
    | .short letters => go (readShort keys o letters)
    | .operand =>
      match o.addOperand takesOperand word with
      | .error e => .error e
      | .ok o => readWords keys takesOperand o rest

inductive Command
  | filter (conditions : String) (maxDepth : Option Nat) (interpolate : Bool)
  | pattern (name : Option String) (labels : List String) (conditions : Option String)
      (relation : Option Direction) (condensed interpolate : Bool)
  | unknown (name : String)
deriving DecidableEq, Repr

structure Invocation where
  config : Option String
  format : ReportFormat
  command : Command
deriving DecidableEq, Repr

namespace Invocation

/-- A command with the common options, those after the command before those in front of it. -/
def ofOptions (before after : Options) (command : Command) : Invocation :=
  ⟨after.config.or before.config, (after.format.or before.format).getD .table, command⟩

def helpOn : List String → Refusal
  | [] => .help
  | [name] => if name ∈ ["where", "pattern", "help"] then .help else .invalid
  | _ => .invalid

def ofCommand (before : Except Refusal Options) (word : String) (rest : List String) :
    Except Refusal Invocation :=
  match word with
  | "help" => .error (helpOn rest)
  | "where" => do
    let after ← readWords whereKeys true .none rest
    let before ← before
    match after.operand with
    | some conditions =>
      return ofOptions before after (.filter conditions after.maxDepth after.interpolate)
    | none => .error .invalid
  | "pattern" => do
    let after ← readWords patternKeys false .none rest
    let before ← before
    return ofOptions before after (.pattern after.name after.labels after.conditions
      after.relation after.condensed after.interpolate)
  | name => do
    let before ← before
    return ofOptions before .none (.unknown name)

/-- What it means that no command follows: help if nothing was given at all. -/
def withoutCommand (before : Options) : Refusal :=
  if before = .none then .help else .invalid

/-- Reads the words up to the command, after options that may turn out to be wrong. -/
def read (before : Except Refusal Options) : List String → Except Refusal Invocation
  | [] => do
    let before ← before
    .error (withoutCommand before)
  | word :: rest =>
    let go := fun (step : Except Refusal Step) =>
      match step, rest with
      | .error e, _ => .error e
      | .ok (o, none), rest => read (.ok o) rest
      | .ok (_, some _), [] => .error .invalid
      | .ok (o, some key), value :: rest =>
        match Word.of value with
        | .operand => read (o.set key value) rest
        | _ => .error .invalid
    match Word.of word with
    | .operand => ofCommand before word rest
    | .escape =>
      match before, rest with
      | .error e, _ => .error e
      | .ok o, [] => .error (withoutCommand o)
      | .ok o, name :: _ => .ok (ofOptions o .none (.unknown name))
    | .long name value => go (before.bind fun o => readLong commonKeys o name value)
    | .short letters => go (before.bind fun o => readShort commonKeys o letters)

def parse (words : List String) : Except Refusal Invocation :=
  read (.ok .none) words

end Invocation

end GraphQuery.CommandLine
