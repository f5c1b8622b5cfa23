import SchemaTransfer.CommandLine.Arguments

/-!
# What is asked for

The options for all commands come first, then a command with options of its own, then nothing.
-/

namespace SchemaTransfer.CommandLine

/-- A command. -/
inductive Command where
  /-- Writes scripts, for the catalog of a snapshot if one is given. -/
  | generate (outputDir : Option String) (dryRun : Bool) (snapshot : Option String)
  /-- Takes a snapshot of the source. -/
  | snapshot (output : String)
  /-- Checks whether the source can be reached. -/
  | healthCheck
  deriving DecidableEq

/-- A command with the options for all commands. -/
structure Invocation where
  /-- The path of the settings. -/
  settings : String := "config.yaml"
  /-- Whether results are written as JSON. -/
  outputJson : Bool := false
  command : Command
  deriving DecidableEq

/-- The options for all commands. The two that concern logging are accepted whatever they say. -/
def commonOptions : List OptionSpec := [
  ⟨"config", some 'c', .path⟩, ⟨"output-json", none, .nothing⟩, ⟨"log-format", none, .text⟩,
  ⟨"verbosity", none, .text⟩]

/-- The options for writing scripts. -/
def generateOptions : List OptionSpec := [
  ⟨"output-dir", some 'o', .path⟩, ⟨"dry-run", none, .nothing⟩, ⟨"snapshot", none, .path⟩]

/-- The options for taking a snapshot. -/
def snapshotOptions : List OptionSpec := [⟨"output", some 'o', .path⟩]

/-- Whether an option was given. -/
def Given.has (given : Given) (name : String) : Bool := (given.lookup name).isSome

/-- Reads the options of a command; after them there may be two dashes, and nothing else. -/
def readAll? (options : List OptionSpec) (arguments : List String) : Option Given :=
  match readOptions options [] arguments with
  | some (given, []) => some given
  | some (given, ["--"]) => some given
  | _ => none

/-- Reads a command. -/
def Command.ofArguments? : List String → Option Command
  | [] => none
  | word :: rest =>
    if word = "generate" then
      (readAll? generateOptions rest).map fun given =>
        .generate (given.lookup "output-dir") (given.has "dry-run") (given.lookup "snapshot")
    else if word = "snapshot" then
      (readAll? snapshotOptions rest).bind fun given =>
        (given.lookup "output").map .snapshot
    else if word = "health-check" then
      (readAll? [] rest).map fun _ => .healthCheck
    else none

/-- Reads all arguments. -/
def Invocation.ofArguments? (arguments : List String) : Option Invocation :=
  (readOptions commonOptions [] arguments).bind fun (given, rest) =>
    (Command.ofArguments? rest).map fun command =>
      { settings := (given.lookup "config").getD "config.yaml"
        outputJson := given.has "output-json"
        command }

end SchemaTransfer.CommandLine
