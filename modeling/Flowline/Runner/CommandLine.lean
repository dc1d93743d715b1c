import Flowline.Execution.Document
import Flowline.Runner

/-!
# The command line of the runner

A command and its options are read from the words of a command line.  What a
command answers is shown as JSON, together with whether all went well.
-/

namespace Flowline.Runner

/-- What the runner is asked to do. -/
inductive Command where
  | run (path : String) (input : InputSource)
  | validate (path : String)
  | showRun (id : String)
  | cancel (id : String)
  deriving DecidableEq, Repr

/-- A command line that was understood. -/
structure Invocation where
  /-- The configuration file that was named. -/
  config : Option String
  command : Command
  deriving DecidableEq, Repr

/-- The words of a command line, options apart from the others. -/
structure CommandLine where
  options : Keyed String := []
  words : List String := []

namespace CommandLine

def usage : String :=
  "\n".intercalate [
    "usage: switchyard [--config FILE] COMMAND",
    "",
    "commands:",
    "  run FILE [--input JSON | --input-file FILE]",
    "                  run a workflow and print its record",
    "  validate FILE   check a workflow without running it",
    "  show ID         print the record of a run",
    "  cancel ID       cancel a run"]

/-- The options; each takes a value. -/
def optionNames : List String := ["--config", "--input", "--input-file"]

/-- Tell options and words apart.  The value of an option is the next word or
stands behind an equals sign. -/
def ofWords? : List String → Option CommandLine
  | [] => some {}
  | word :: rest =>
      if optionNames.contains word then
        match rest with
        | value :: rest => (ofWords? rest).bind (put? word value)
        | [] => none
      else
        match optionNames.find? fun name => (name ++ "=").toList.isPrefixOf word.toList with
        | some name =>
            let value := String.ofList (word.toList.drop (name.length + 1))
            (ofWords? rest).bind (put? name value)
        | none =>
            if "--".toList.isPrefixOf word.toList then none
            else (ofWords? rest).map fun line => { line with words := word :: line.words }
where
  /-- An option may be given once. -/
  put? (name value : String) (line : CommandLine) : Option CommandLine :=
    if (Keyed.get? name line.options).isSome then none
    else some { line with options := Keyed.insert name value line.options }

/-- Where the input of a run comes from; it has one source at most. -/
def input? (line : CommandLine) : Option InputSource :=
  match Keyed.get? "--input" line.options, Keyed.get? "--input-file" line.options with
  | none, none => some .none
  | some text, none => some (.inline text)
  | none, some path => some (.file path)
  | some _, some _ => none

/-- The command of a line; only runs have an input. -/
def command? (line : CommandLine) : Option Command := do
  let input ← line.input?
  match line.words with
  | ["run", path] => some (.run path input)
  | words =>
      if input ≠ .none then none
      else
        match words with
        | ["validate", path] => some (.validate path)
        | ["show", id] => some (.showRun id)
        | ["cancel", id] => some (.cancel id)
        | _ => none

end CommandLine

/-- Read the words of a command line. -/
def Invocation.ofWords? (words : List String) : Option Invocation := do
  let line ← CommandLine.ofWords? words
  some ⟨Keyed.get? "--config" line.options, ← line.command?⟩

def ValidationReport.encode (report : ValidationReport) : Json :=
  .ofMembers [
    ("workflow", .string report.workflow), ("nodes", .ofNat report.nodes),
    ("connections", .ofNat report.connections), ("cyclic", .bool report.cyclic),
    ("unreachable", .array (report.unreachable.map .string))]

/-- What a command shows. -/
structure Answer where
  shown : Json
  isSuccess : Bool := true

/-- What a command does.  Only a run can answer without success. -/
def Command.action (settings : Engine.Settings) : Command → Action (Except Error Answer)
  | run path input => do
      return (← Runner.run settings path input).map fun record =>
        { shown := record.encode, isSuccess := record.status = .success }
  | validate path => do
      return (← Runner.validate path).map fun report => { shown := report.encode }
  | showRun id => do return (← Runner.showRun id).map fun record => { shown := record.encode }
  | cancel id => do return (← Runner.cancel id).map fun record => { shown := record.encode }

end Flowline.Runner
