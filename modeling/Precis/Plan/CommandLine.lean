import Precis.Overflow
import Precis.Plan.Basic
import Precis.Settings.Document
import Precis.Settings.Overrides

/-!
# The command line

A command plans a file of items or shows the settings in effect. What a run prints depends on its
arguments, on the files that it names and on the overrides. A run that plans items stops without an
answer when a sum of tokens is too large.
-/

namespace Precis.CommandLine

/-- What can be asked for. -/
inductive Command where
  | nothing
  | plan (items config : Option String)
  | settings (config : Option String)
  | version
  | help
  | unknown (name : String)
  deriving DecidableEq, Repr

/-- The argument after the first `--config`. -/
def settingsPath (args : List String) : Option String :=
  ((args.dropWhile (· != "--config")).drop 1).head?

/-- The first argument, if it is no option. -/
def itemsPath (args : List String) : Option String :=
  args.head?.filter fun a => !"--".toList.isPrefixOf a.toList

/-- The command of arguments. -/
def Command.ofArgs : List String → Command
  | [] => nothing
  | name :: args =>
    if name = "plan" then plan (itemsPath args) (settingsPath args)
    else if name = "config" then settings (settingsPath args)
    else if ["version", "--version", "-V"].contains name then version
    else if ["help", "--help", "-h"].contains name then help
    else unknown name

/-- The files that a command names. -/
def Command.paths : Command → List String
  | plan items config => items.toList ++ config.toList
  | settings config => config.toList
  | _ => []

/-- The reasons why a command gives no answer. -/
inductive Refusal where
  | noItems
  | badSettings (problem : Problem)
  | unreadable (path : String)
  | badItem (path : String) (line : Nat) (objection : String)
  deriving DecidableEq

/-- What a command could not do, and why if that is known. -/
def Refusal.text : Refusal → String × Option String
  | noItems => ("plan requires an items file (JSON lines)", none)
  | badSettings problem => ("loading pipeline configuration", some problem.message)
  | unreadable path => ("reading " ++ path, some Problem.unreadableFile.message)
  | badItem path line objection =>
    (path ++ ":" ++ Text.numeral line ++ ": invalid item", some objection)

/-- What a run prints, and its exit code. -/
structure Output where
  out : String := ""
  err : List String := []
  code : UInt8 := 0
  deriving DecidableEq

/-- What a run finds: files by path, overrides by name, and the words of the reader of documents. -/
structure Surroundings where
  file : String → Option String
  value : String → Option String
  /-- What the reader says of a line that holds no item. -/
  objection : List Char → String

/-- How the commands are used. -/
def usage : String :=
  "\n".intercalate
    ["batch-plan: token-bounded batch planning",
     "",
     "USAGE:",
     "    batch-plan <COMMAND> [OPTIONS]",
     "",
     "COMMANDS:",
     "    plan <items.jsonl> [--config <path>]   Pack items and print the batch plan as JSON",
     "    config [--config <path>]               Print the effective configuration as YAML",
     "    version                                Show version information",
     "    help                                   Show this help message",
     "",
     "ENVIRONMENT:",
     "    AI_BATCH_*                             Configuration overrides",
     "    RUST_LOG                               Log filter (default: info)",
     ""]

/-- The version. -/
def versionText : String := "batch-plan 0.3.0\n"

/-- The settings of a file. -/
def settingsOfFile (around : Surroundings) (path : String) : Except Problem Settings :=
  match around.file path with
  | none => .error .unreadableFile
  | some text => Settings.ofYaml text

/-- The settings in effect: those of a file or the defaults, overridden and checked. -/
def loadSettings (around : Surroundings) (path : Option String) : Except Problem Settings := do
  let base ← match path with
    | none => pure {}
    | some path => settingsOfFile around path
  let settings := base.overridden around.value
  settings.check
  return settings

/-- The settings in effect for a command. -/
def effectiveSettings (around : Surroundings) (path : Option String) : Except Refusal Settings :=
  match loadSettings around path with
  | .ok settings => .ok settings
  | .error problem => .error (.badSettings problem)

/-- The items of a file. -/
def itemsOfFile (around : Surroundings) (path : String) : Except Refusal (List Item) :=
  match around.file path with
  | none => .error (.unreadable path)
  | some text =>
    match Plan.readItems text with
    | .ok items => .ok items
    | .error (number, line) => .error (.badItem path number (around.objection line))

/-- The plan of a file of items, unless a sum of tokens is too large. -/
def planFile (around : Surroundings) (items config : Option String) :
    Except Refusal (Option Plan) := do
  match items with
  | none => .error .noItems
  | some path =>
    let settings ← effectiveSettings around config
    return Plan.ofItems settings.batch (← itemsOfFile around path)

/-- The output of an answer or of a refusal. -/
def output : Except Refusal String → Output
  | .ok text => { out := text }
  | .error refusal =>
    let (what, why) := refusal.text
    { err := ("Error: " ++ what) :: (match why with
        | some cause => ["", "Caused by:", "    " ++ cause]
        | none => [])
      code := 1 }

/-- Runs a command. -/
def Command.run (around : Surroundings) : Command → Except Overflow Output
  | nothing => .ok { out := usage, code := 1 }
  | plan items config =>
    match planFile around items config with
    | .ok none => .error .sum
    | .ok (some p) => .ok (output (.ok (p.toText ++ "\n")))
    | .error refusal => .ok (output (.error refusal))
  | settings config => .ok (output ((effectiveSettings around config).map Settings.toYaml))
  | version => .ok { out := versionText }
  | help => .ok { out := usage }
  | unknown name => .ok { out := usage, err := ["Unknown command: " ++ name, ""], code := 1 }

end Precis.CommandLine
