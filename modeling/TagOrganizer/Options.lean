import TagOrganizer.FileTree.Operation
import TagOrganizer.Json.Decoder

/-!
# Options

The options of a run, as an options file or a command line gives them. The options file of a run is
the one that is named, or else the first one found in the folders of the run, or else that of the
user.
-/

namespace TagOrganizer

/-- The options of a run. -/
structure Options where
  inputFolders : List Path
  ignoreFiles : List Path
  recursive : Bool
  hidden : Bool
  outputFolders : List Path
  /-- The first input folder is the output folder. -/
  organize : Bool
  groupFiles : List Path
  ruleFiles : List Path
  allMatchRoot : Bool
  cleanInput : Bool
  cleanOutput : Bool
  /-- Input and output folders are cleaned. -/
  clean : Bool
  keep : Bool
  moveOnly : Bool
  renameOnly : Bool
  moveAll : Bool
  renameManual : Bool
  failForcedRename : Bool
  trial : Bool
  posix : Bool
  verbose : Bool
  quiet : Bool
  debug : Bool
  logFile : Option Path
  overwriteLog : Bool
  /-- What is in the way is overwritten; only the command line may ask for it. -/
  force : Bool

namespace Options

open Json.Decoder (RecordField record list text boolean optional)

/-- No options. -/
def none : Options where
  inputFolders := []
  ignoreFiles := []
  recursive := false
  hidden := false
  outputFolders := []
  organize := false
  groupFiles := []
  ruleFiles := []
  allMatchRoot := false
  cleanInput := false
  cleanOutput := false
  clean := false
  keep := false
  moveOnly := false
  renameOnly := false
  moveAll := false
  renameManual := false
  failForcedRename := false
  trial := false
  posix := false
  verbose := false
  quiet := false
  debug := false
  logFile := Option.none
  overwriteLog := false
  force := false

/-- Decodes a path. -/
def path : Json.Decoder Path := fun room draft =>
  (text room draft).map Path.mk

/-- A field that holds a list of paths. -/
def pathsField (name : String) (set : List Path → Options → Options) : RecordField Options :=
  .may name (list path) set

/-- A field that holds a switch. -/
def switchField (name : String) (set : Bool → Options → Options) : RecordField Options :=
  .may name boolean set

/-- The fields of an options file. -/
def fields : List (RecordField Options) :=
  [ pathsField "input_folders" fun value options => { options with inputFolders := value },
    pathsField "ignore_files" fun value options => { options with ignoreFiles := value },
    switchField "recursive" fun value options => { options with recursive := value },
    switchField "hidden" fun value options => { options with hidden := value },
    pathsField "output_folders" fun value options => { options with outputFolders := value },
    switchField "organize" fun value options => { options with organize := value },
    pathsField "group_files" fun value options => { options with groupFiles := value },
    pathsField "schema_files" fun value options => { options with ruleFiles := value },
    switchField "all_match_root" fun value options => { options with allMatchRoot := value },
    switchField "clean_input" fun value options => { options with cleanInput := value },
    switchField "clean_output" fun value options => { options with cleanOutput := value },
    switchField "clean" fun value options => { options with clean := value },
    switchField "keep" fun value options => { options with keep := value },
    switchField "move_only" fun value options => { options with moveOnly := value },
    switchField "rename_only" fun value options => { options with renameOnly := value },
    switchField "move_all" fun value options => { options with moveAll := value },
    switchField "rename_manual" fun value options => { options with renameManual := value },
    switchField "fail_forced_rename"
      fun value options => { options with failForcedRename := value },
    switchField "trial" fun value options => { options with trial := value },
    switchField "posix" fun value options => { options with posix := value },
    switchField "verbose" fun value options => { options with verbose := value },
    switchField "quiet" fun value options => { options with quiet := value },
    switchField "debug" fun value options => { options with debug := value },
    .may "log_file" (optional path) fun value options => { options with logFile := value },
    switchField "overwrite_log" fun value options => { options with overwriteLog := value },
    switchField "force" fun value options => { options with force := value } ]

/-- Decodes options; what is not given is off. -/
def decoder : Json.Decoder Options :=
  record fields none

/-- The options of a text. -/
def ofText (source : String) : Except Error Options :=
  (Json.Decoder.ofText decoder source).mapError Error.unreadable

/-- The options of a value. -/
def ofJson (value : Json) : Except Error Options :=
  (Json.Decoder.ofJson decoder value).mapError Error.unreadable

/-- The options of a file. -/
def ofFile (tree : FileTree) (path : Path) : Evaluation Options := do
  let content ← tree.readFile path
  let options ← ofText content
  tell (.optionsLoaded path)
  return options

/-- How options files are called. -/
def fileName : Path := ⟨".tagsortrc"⟩

/-- The options file of a user, in the folder that holds the user's configuration. -/
def userFile (folder : Path) : Path :=
  (folder.join ⟨"tagsort"⟩).join fileName

/-- The options file of a run: the one that is named, or else one in `folders`, or else `user`. -/
def discover (tree : FileTree) (explicit : Option Path) (folders : List Path)
    (user : Option Path) : Option Path :=
  match explicit with
  | some path => some path
  | Option.none =>
      match (folders.map fun folder => folder.join fileName).find? tree.isFile with
      | some path => some path
      | Option.none => user.filter tree.isFile

/-- The options of the options file of a run, if there is one. -/
def find (tree : FileTree) (explicit : Option Path) (folders : List Path) (user : Option Path) :
    Evaluation Options :=
  match discover tree explicit folders user with
  | some path => ofFile tree path
  | Option.none => return none

end Options

end TagOrganizer
