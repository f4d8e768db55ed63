import TagOrganizer.Event

/-!
# Log lines

An event as a line of a log: the time, the severity and the wording, in a file also the topic.
Characters that command a terminal are written by their code, so that a name that is logged cannot
act on the terminal that the log is shown on.
-/

namespace TagOrganizer

/-- The name of a severity, with a blank before it if it is short, so that lines are aligned. -/
def Severity.column (severity : Severity) : String :=
  if severity.name.length < 5 then " " ++ severity.name else severity.name

namespace Event

/-- The topic of an event. -/
def topic : Event → String
  | .filterEmpty | .filterMatched .. | .filterUnmatched .. | .conditionSetStray _ =>
      "tagsort::filter"
  | .occurrenceOutsideSpan _ | .spanWithoutOccurrence _ | .formatEmpty | .slashInResult ..
  | .resultEmpty _ => "tagsort::format"
  | .groupRepeated _ | .groupUnknown _ | .groupReferenceUnknown _ | .groupsLoaded _
  | .groupFileExtension _ | .groupFileLoaded _ | .newerTagSpaces .. => "tagsort::groups"
  | .rulesLoaded .. | .ruleFileExtension _ | .ruleFileLoaded _ => "tagsort::schema"
  | .fileIgnored _ | .fileFound _ | .fileUntagged _ => "tagsort::model"
  | .fileNameless _ | .fileRepeated _ | .ignoreFileUnreadable _ | .ignoreFileLoaded _
  | .ignorePatternBad _ | .ignorePatternCount _ | .inputFolderMissing _ | .folderUnread .. =>
      "tagsort::commands::scan"
  | .movementEmpty | .placementComplete _ | .placementPartial .. | .placementMissed _ =>
      "tagsort::commands::destination"
  | .renamingEmpty | .unnamedPatternsMissing | .unnamedPatternBad _ | .tagsLost _
  | .extensionLost _ | .nameNotPlain .. | .manualNameKept _ | .renamingUnmatched _
  | .nameChosen .. | .nameTaken _ | .firstRenamed .. | .firstElsewhere _ =>
      "tagsort::commands::naming"
  | .windowsIssue _ | .outputTaken _ | .outputOverwritten _ | .targetKept _
  | .folderOverwritten _ | .folderNotRemoved .. | .fileOverwritten _ | .outsideRefused ..
  | .ontoItself _ | .moving .. | .folderCreated _ | .copyFailed .. | .unplacedSkipped _
  | .unnamedSkipped _ | .sourceRemoved _ => "tagsort::commands::relocate"
  | .walkFailed .. | .folderNotEmpty _ | .folderCleaned _ | .folderNotCleaned .. =>
      "tagsort::commands::clean"
  | .optionsLoaded _ => "tagsort::config"
  | .settingsResolved .. => "tagsort"
  | .moveAndRenameOnly | .moveAllIgnored | .renameManualIgnored | .inputMissing
  | .organizeIgnoredOnLine | .organizingInto _ | .organizeIgnoredInFile | .outputMissing
  | .rulesMissing | .keepIgnored | .clobbering | .forceIgnoredInFile => "tagsort::settings"

/-- The control characters of ASCII that command a terminal. -/
def commandChars : List Char := ['\x07', '\x08', '\x0c', '\x1b', '\x7f']

/-- The two digits of a small code. -/
def twoDigits (code : Nat) : List Char :=
  [Nat.digitChar (code / 16), Nat.digitChar (code % 16)]

/-- How a character is written in a log. -/
def logChar (char : Char) : List Char :=
  if commandChars.contains char then ['\\', 'x'] ++ twoDigits char.toNat
  else if 0x80 ≤ char.toNat ∧ char.toNat < 0xa0 then
    ['\\', 'u', '\x7b'] ++ twoDigits char.toNat ++ ['\x7d']
  else [char]

/-- The wording of an event as it is written in a log. -/
def logText (event : Event) : String :=
  String.ofList (event.text.toList.flatMap logChar)

/-- An event as a line of a log that is shown. -/
def shownLine (stamp : String) (event : Event) : String :=
  stamp ++ " " ++ event.severity.column ++ " " ++ event.logText ++ "\n"

/-- An event as a line of a log file. -/
def fileLine (stamp : String) (event : Event) : String :=
  stamp ++ " " ++ event.severity.column ++ " " ++ event.topic ++ ": " ++ event.logText ++ "\n"

end Event

end TagOrganizer
