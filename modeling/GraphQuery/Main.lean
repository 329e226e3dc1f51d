import GraphQuery.CommandLine.Run

/-!
# The program

Reads the settings file, if there is one, and prints what the command line asks for. Failures go to
the error stream.
-/

namespace GraphQuery.CommandLine

def usage : String :=
  "\n".intercalate
    ["Usage: [--config PATH] [--format table|json|toon] where CONDITIONS",
     "         [--max-depth N] [--interpolate]",
     "       [--config PATH] [--format table|json|toon] pattern",
     "         [--name NAME] [--labels LABEL,LABEL] [--conditions JSON]",
     "         [--relation out|in|either] [--condensed] [--interpolate]"]

def version : String := "0.1.0"

def bytesIfPresent (file : String) : IO (Option ByteArray) := do
  try
    return some (← IO.FS.readBinFile file)
  catch
    | .noFileOrDirectory .. => return none
    | e => throw e

def refuse : Refusal → IO UInt32
  | .help => do
    IO.println usage
    return 0
  | .version => do
    IO.println version
    return 0
  | .invalid => do
    IO.eprintln (Refusal.invalid.message ++ "\n" ++ usage)
    return 2

def execute (i : Invocation) : IO UInt32 := do
  match i.run (← bytesIfPresent i.settingsFile) with
  | .ok text =>
    IO.println text
    return 0
  | .error failure =>
    IO.eprintln failure.message
    return 1

/-- Reads the words of a command line and carries out what they ask for. -/
def runWords (words : List String) : IO UInt32 :=
  match Invocation.parse words with
  | .ok i => execute i
  | .error refusal => refuse refusal

end GraphQuery.CommandLine

def main (args : List String) : IO UInt32 :=
  GraphQuery.CommandLine.runWords args
