import TagOrganizer.Collection
import TagOrganizer.Options
import TagOrganizer.Renaming.Naming
import TagOrganizer.Transfer

/-!
# Settings

The options of the command line and those of an options file are merged into the settings of a run.
A switch is on if either turns it on; a list comes from the command line if that gives one. A run
needs input folders, rules and a place for its output.
-/

namespace TagOrganizer

/-- Where the log goes. -/
structure LogSettings where
  /-- The least severe events that are logged. -/
  threshold : Severity
  /-- A file that the log is also written to. -/
  file : Option Path
  /-- The file is emptied first. -/
  overwrite : Bool

namespace LogSettings

/-- The threshold that the switches ask for; the most talkative one counts. -/
def thresholdOf (quiet verbose debug : Bool) : Severity :=
  if debug then .detail else if verbose then .information else if quiet then .error else .warning

/--
The log of a run. The switches of the options file count only if the command line gives none; a log
file of the command line comes with its own switch.
-/
def resolve (line file : Options) : LogSettings :=
  let source := if line.verbose || line.quiet || line.debug then line else file
  let threshold := thresholdOf source.quiet source.verbose source.debug
  match line.logFile with
  | some path => ⟨threshold, some path, line.overwriteLog⟩
  | none => ⟨threshold, file.logFile, line.overwriteLog || file.overwriteLog⟩

end LogSettings

/-- The settings of a run. -/
structure Settings where
  inputFolders : List Path
  ignoreFiles : List Path
  recursive : Bool
  hidden : Bool
  outputFolders : List Path
  groupFiles : List Path
  ruleFiles : List Path
  allMatchRoot : Bool
  /-- The folders that are rid of empty folders after the run. -/
  cleanFolders : List Path
  keep : Bool
  moveOnly : Bool
  renameOnly : Bool
  moveAll : Bool
  renameManual : Bool
  failForcedRename : Bool
  trial : Bool
  posix : Bool
  force : Bool
  log : LogSettings

namespace Settings

/-- A list of the command line, or else that of the options file. -/
def pick (line file : List Path) : List Path :=
  if line.isEmpty then file else line

/-- The output folders of a run, whose first input folder is `firstInput`. -/
def resolveOutput (line file : Options) (firstInput : Path) (renameOnly : Bool) :
    Evaluation (List Path) := do
  if !line.outputFolders.isEmpty then
    if line.organize then tell .organizeIgnoredOnLine
    return line.outputFolders
  else if line.organize || (file.organize && file.outputFolders.isEmpty) then
    tell (.organizingInto firstInput)
    return [firstInput]
  else if !file.outputFolders.isEmpty then
    if file.organize then tell .organizeIgnoredInFile
    return file.outputFolders
  else if renameOnly then return []
  else
    tell .outputMissing
    throw .noOutputFolder

/-- The folders that are cleaned; switches of the command line replace those of the file. -/
def resolveCleaning (line file : Options) (input output : List Path) : List Path :=
  let lineCleans := line.clean || line.cleanInput || line.cleanOutput
  let cleanInput :=
    line.clean || line.cleanInput || (!lineCleans && (file.clean || file.cleanInput))
  let cleanOutput :=
    line.clean || line.cleanOutput || (!lineCleans && (file.clean || file.cleanOutput))
  (if cleanInput then input else []) ++ (if cleanOutput then output else [])

/-- Whether one of the input folders is an output folder. -/
def isInPlace (input output : List Path) : Bool :=
  input.any fun folder => output.any folder.sameAs

/-- Merges the options of the command line with those of an options file. -/
def resolve (line file : Options) : Evaluation Settings := do
  let moveWanted := line.moveOnly || file.moveOnly
  let renameWanted := line.renameOnly || file.renameOnly
  if moveWanted && renameWanted then tell .moveAndRenameOnly
  let moveOnly := moveWanted && !renameWanted
  let renameOnly := renameWanted && !moveWanted
  let moveAll := line.moveAll || file.moveAll
  let renameManual := line.renameManual || file.renameManual
  if moveAll && renameOnly then tell .moveAllIgnored
  if renameManual && moveOnly then tell .renameManualIgnored
  let inputFolders := pick line.inputFolders file.inputFolders
  let firstInput ←
    match inputFolders with
    | first :: _ => pure first
    | [] =>
        tell .inputMissing
        throw .noInputFolder
  let outputFolders ← resolveOutput line file firstInput renameOnly
  let ruleFiles := pick line.ruleFiles file.ruleFiles
  if ruleFiles.isEmpty then
    tell .rulesMissing
    throw .noRules
  let keepWanted := line.keep || file.keep
  let keepIgnored := keepWanted && isInPlace inputFolders outputFolders
  if keepIgnored then tell .keepIgnored
  if line.force then tell .clobbering
  if file.force then tell .forceIgnoredInFile
  return {
    inputFolders, outputFolders, ruleFiles, moveOnly, renameOnly, moveAll, renameManual
    ignoreFiles := pick line.ignoreFiles file.ignoreFiles
    groupFiles := pick line.groupFiles file.groupFiles
    recursive := line.recursive || file.recursive
    hidden := line.hidden || file.hidden
    allMatchRoot := line.allMatchRoot || file.allMatchRoot
    cleanFolders := resolveCleaning line file inputFolders outputFolders
    keep := keepWanted && !keepIgnored
    failForcedRename := line.failForcedRename || file.failForcedRename
    trial := line.trial || file.trial
    posix := line.posix || file.posix
    force := line.force
    log := LogSettings.resolve line file }

/-- Which files are collected. -/
def scanOptions (settings : Settings) : ScanOptions where
  recursive := settings.recursive
  hidden := settings.hidden

/-- How files are named. -/
def namingOptions (settings : Settings) : NamingOptions where
  forceRename := settings.renameManual && !settings.moveOnly
  failOnBad := settings.failForcedRename
  clearOccurrences := false

/-- How files are moved. -/
def moveOptions (settings : Settings) : MoveOptions where
  keep := settings.keep
  trialRun := settings.trial
  force := settings.force
  allMatchRoot := settings.allMatchRoot
  moveAll := settings.moveAll && !settings.renameOnly
  posix := settings.posix
  renameOnly := settings.renameOnly

end Settings

end TagOrganizer
