import TagOrganizer.CommandLine.Arguments
import TagOrganizer.CommandLine.Log
import TagOrganizer.Organizer

/-!
# The program

A run of the program as a function: from its arguments and the files and folders to what it prints,
what it logs, its exit code and the files and folders afterwards.
-/

namespace TagOrganizer

namespace CommandLine

/-- What a run of the program comes to. -/
structure Outcome where
  code : Nat
  /-- The lines that are printed. -/
  output : List String
  /-- The lines that are printed as errors. -/
  errors : List String
  /-- The events that are logged. -/
  log : List Event

/-- All lines that a run prints on standard error: first the log, then the errors. -/
def Outcome.diagnostics (outcome : Outcome) (stamp : String) : List String :=
  (outcome.log.map (Event.shownLine stamp) ++ outcome.errors).flatMap Text.lines

/-- The name and the version of the program. -/
def versionLine : String := "tagsort 0.1.0"

/-- How the program is used. -/
def helpLines : List String :=
  [ "Rename and sort tagged files into folders according to rules in a schema", "",
    "Usage: tagsort [OPTIONS]", "", "Options:" ] ++
  arguments.map fun argument =>
    let letter := match argument.letter with
      | some letter => "-" ++ String.ofList [letter] ++ ", "
      | none => "    "
    let value := if argument.takesValue then " <PATH>" else ""
    "  " ++ letter ++ "--" ++ argument.long ++ value

/-- The outcome of a command line that does not lead to a run. -/
def Refusal.outcome : Refusal → Outcome
  | .help => ⟨0, helpLines, [], []⟩
  | .version => ⟨0, [versionLine], [], []⟩
  | .unknownArgument => ⟨2, [], ["error: unexpected argument found"], []⟩
  | .invalidValue => ⟨2, [], ["error: a value is required but none was supplied"], []⟩
  | .argumentConflict => ⟨2, [], ["error: an argument cannot be used multiple times"], []⟩
  | .tooManyValues => ⟨2, [], ["error: unexpected value for an argument found"], []⟩

/-- The outcome of a run that ends early. -/
def failure (error : Error) (log : List Event) : Outcome :=
  ⟨1, [], ["Error: " ++ error.message], log⟩

/-- How many files a run has dealt with. -/
def summary (report : Report) : String :=
  let placed := (report.files.filter fun file => !file.moveFailed).length
  let named := (report.files.filter fun file => !file.renameFailed).length
  Nat.repr report.files.length ++ " tagged file(s): " ++ Nat.repr placed ++ " placed, " ++
    Nat.repr named ++ " named"

/-- The outcome of a run that comes to its end. -/
def success (report : Report) (log : List Event) : Outcome :=
  let (errors, others) := report.messages.partition fun message => message.kind == .error
  ⟨0, summary report :: others.map Message.content, errors.map Message.content, log⟩

/-- The run that options ask for. -/
def organize (line file : Options) : Operation Report := do
  let settings ← Settings.resolve line file
  tell (.settingsResolved settings.inputFolders settings.outputFolders)
  let organizer ← Organizer.ofFiles settings.groupFiles settings.ruleFiles
  ExceptT.mk fun disk => do
    let (report, scene) ← (organizer.organize settings).perform ⟨disk, Ledger.empty⟩
    return (report, scene.disk)

/-- Runs what options ask for, with a log. -/
def runLogged (stamp : String) (line file : Options) (tree : FileTree) : Outcome × FileTree :=
  let settings := LogSettings.resolve line file
  match settings.openFile stamp tree with
  | .error fault => (failure (.storage fault) [], tree)
  | .ok disk =>
      let run := (organize line file).perform disk
      let (outcome, disk) := run.value
      let log := settings.select run.log
      match outcome with
      | .ok report => (success report log, disk.tree)
      | .error error => (failure error log, disk.tree)

/--
Runs the program. `user` is the options file of the user, and `stamp` the time that log lines begin
with.
-/
def run (stamp : String) (user : Option Path) (arguments : List String) (tree : FileTree) :
    Outcome × FileTree :=
  match parse arguments with
  | .error refusal => (refusal.outcome, tree)
  | .ok request =>
      match (Options.find tree request.config request.searchFolders user).result with
      | .error error => (failure error [], tree)
      | .ok file => runLogged stamp request.options file tree

end CommandLine

end TagOrganizer
