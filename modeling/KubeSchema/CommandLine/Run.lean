import KubeSchema.CommandLine.Arguments
import KubeSchema.Manifest
import KubeSchema.Source.Workspace

/-!
# Running commands

What a command writes, as a function of what stands at its source. Where the result goes is left to the
caller, so that the same functions serve a workspace and the file system.
-/

namespace KubeSchema

/-- What a run leaves on the streams, and its exit code. -/
structure Report where
  code : Nat
  stdout : String
  stderr : String
  deriving DecidableEq, Repr

/-- The program's name and version. -/
def versionLine : String := "kube-model-compiler 0.1.0"

/-- How the program is called. -/
def usageText : String :=
  "Usage: kube-model-compiler [-v] compile [--ignore NAME]... [--no-default-ignores] [--ext EXT] " ++
    "[--output PATH] [--pretty] SCHEMA\n" ++
    "       kube-model-compiler [-v] bindings [--output PATH] [--pretty] SCHEMA\n"

namespace UsageFault

/-- The text of the fault. -/
def message : UsageFault → String
  | noCommand => "a command is missing"
  | unknown argument => "unexpected argument '" ++ argument ++ "'"
  | repeated name => "'" ++ name ++ "' is given more than once"
  | missingValue option => "'" ++ option ++ "' needs a value"
  | emptyPath option => "'" ++ option ++ "' needs a path"
  | unexpectedValue flag => "'" ++ flag ++ "' takes no value"
  | missingSource => "a schema source is missing"

end UsageFault

namespace Stop

/-- What a run leaves that was stopped by its arguments. -/
def report : Stop → Report
  | help => ⟨0, usageText, ""⟩
  | version => ⟨0, versionLine ++ "\n", ""⟩
  | usage fault => ⟨2, "", "error: " ++ fault.message ++ "\n\n" ++ usageText⟩

end Stop

namespace Report

/-- What a run leaves that was stopped by an error. -/
def failure (message : String) (code : Nat) : Report :=
  ⟨code, "", "Error: " ++ message ++ "\n"⟩

/-- What a run leaves that printed its result. -/
def printed (text : String) : Report := ⟨0, text ++ "\n", ""⟩

/-- What a run leaves that wrote its result to a file. -/
def saved : Report := ⟨0, "", ""⟩

/-- What a run leaves that could not write its result to a file. -/
def notSaved (path : String) (fault : FileFault) : Report :=
  ⟨3, "", "Error writing to " ++ path ++ ": " ++ fault.message ++ "\n"⟩

end Report

namespace Command

/-- The options of a compilation with the given choices. -/
def options (ignored : List String) (stockIgnores : Bool) : Options :=
  ignored.foldl Options.ignoring (if stockIgnores then .standard else Options.standard.ignoringNothing)

/-- The result of a task on a document. -/
def perform (task : Task) (document : Document) : Except CompileError Json :=
  match task with
  | .compile ignored stockIgnores ext => do
    return (Manifest.ofCompiled (← compile document (options ignored stockIgnores)) ext).toJson
  | .bindings => .ok (Bindings.ofPaths document.paths).toJson

/-- The text that a command writes, or the report of its failure. -/
def result (command : Command) (content : FileContent) : Except Report String :=
  match Document.loadSource command.source content with
  | .error error => .error (.failure error.message error.exitCode)
  | .ok document =>
    match perform command.task document with
    | .error error => .error (.failure error.message error.exitCode)
    | .ok value => .ok (value.write (if command.isPretty then .pretty else .compact))

end Command

namespace Workspace

/-- Runs the program with some arguments in a workspace. -/
def run (workspace : Workspace) (arguments : List String) : Report × Workspace :=
  match Arguments.read arguments with
  | .error stop => (stop.report, workspace)
  | .ok command =>
    match command.result (workspace.read command.source) with
    | .error report => (report, workspace)
    | .ok text =>
      match command.output with
      | none => (.printed text, workspace)
      | some path =>
        match workspace.write path text with
        | .error fault => (.notSaved path fault, workspace)
        | .ok workspace => (.saved, workspace)

end Workspace

end KubeSchema
