import TagOrganizer.Error
import TagOrganizer.Text.Quoted

/-!
# Events

What is worth telling about a run while it goes on: each event with its severity and its wording.
-/

namespace TagOrganizer

/-- How severe an event is. -/
inductive Severity where
  | error
  | warning
  | information
  | detail
  deriving DecidableEq

namespace Severity

/-- The rank of a severity; the most severe has the lowest. -/
def rank : Severity → Nat
  | .error => 0
  | .warning => 1
  | .information => 2
  | .detail => 3

/-- How a severity is written in a log. -/
def name : Severity → String
  | .error => "ERROR"
  | .warning => "WARN"
  | .information => "INFO"
  | .detail => "DEBUG"

/-- Whether a severity is at least as severe as a threshold. -/
def reaches (severity threshold : Severity) : Bool :=
  severity.rank ≤ threshold.rank

end Severity

/-- Something that happens during a run. -/
inductive Event where
  -- Selection
  | filterEmpty
  | filterMatched (tags : List String) (conditionSet : String)
  | filterUnmatched (tags : List String) (filter : String)
  | conditionSetStray (text : String)
  -- Templates
  | occurrenceOutsideSpan (format : String)
  | spanWithoutOccurrence (format : String)
  | formatEmpty
  | slashInResult (format result : String)
  | resultEmpty (format : String)
  -- Groups of tags
  | groupRepeated (name : String)
  | groupUnknown (name : String)
  | groupReferenceUnknown (name : String)
  | groupsLoaded (count : Nat)
  | groupFileExtension (path : Path)
  | groupFileLoaded (path : Path)
  | newerTagSpaces (app : String) (settings : Nat)
  -- Rules
  | rulesLoaded (formats unnamed renamings movements : Nat)
  | ruleFileExtension (path : Path)
  | ruleFileLoaded (path : Path)
  -- Collecting files
  | fileIgnored (path : Path)
  | fileFound (path : Path)
  | fileUntagged (path : Path)
  | fileNameless (path : Path)
  | fileRepeated (path : Path)
  | ignoreFileUnreadable (path : Path)
  | ignoreFileLoaded (path : Path)
  | ignorePatternBad (error : Error)
  | ignorePatternCount (count : Nat)
  | inputFolderMissing (folder : Path)
  | folderUnread (folder : Path) (fault : StorageFault)
  -- Placing files
  | movementEmpty
  | placementComplete (tags : List String)
  | placementPartial (tags : List String) (path : Path)
  | placementMissed (rawName : String)
  -- Naming files
  | renamingEmpty
  | unnamedPatternsMissing
  | unnamedPatternBad (error : Error)
  | tagsLost (format : String)
  | extensionLost (format : String)
  | nameNotPlain (format name rawName : String)
  | manualNameKept (path : Path)
  | renamingUnmatched (rawName : String)
  | nameChosen (rawName name : String)
  | nameTaken (name : String)
  | firstRenamed (name chosen : String)
  | firstElsewhere (name : String)
  -- Moving files
  | windowsIssue (issue : String)
  | outputTaken (folder : Path)
  | outputOverwritten (folder : Path)
  | targetKept (target : Path)
  | folderOverwritten (target : Path)
  | folderNotRemoved (target : Path) (fault : StorageFault)
  | fileOverwritten (target : Path)
  | outsideRefused (rawName : String) (folder destination : Path) (outputName : String)
  | ontoItself (path : Path)
  | moving (source target : Path)
  | folderCreated (folder : Path)
  | copyFailed (target : Path) (fault : StorageFault)
  | unplacedSkipped (rawName : String)
  | unnamedSkipped (rawName : String)
  | sourceRemoved (path : Path)
  -- Cleaning folders
  | walkFailed (path : Path) (fault : StorageFault)
  | folderNotEmpty (path : Path)
  | folderCleaned (path : Path)
  | folderNotCleaned (path : Path) (fault : StorageFault)
  -- Options
  | optionsLoaded (path : Path)
  | settingsResolved (inputFolders outputFolders : List Path)
  | moveAndRenameOnly
  | moveAllIgnored
  | renameManualIgnored
  | inputMissing
  | organizeIgnoredOnLine
  | organizingInto (folder : Path)
  | organizeIgnoredInFile
  | outputMissing
  | rulesMissing
  | keepIgnored
  | clobbering
  | forceIgnoredInFile

namespace Event

/-- How severe an event is. -/
def severity : Event → Severity
  | .filterEmpty | .occurrenceOutsideSpan _ | .formatEmpty | .resultEmpty _
  | .ignoreFileUnreadable _ | .inputFolderMissing _ | .movementEmpty | .renamingEmpty
  | .nameNotPlain .. | .outputTaken _ | .folderNotRemoved .. | .outsideRefused ..
  | .copyFailed .. | .inputMissing | .outputMissing | .rulesMissing => .error
  | .conditionSetStray _ | .spanWithoutOccurrence _ | .slashInResult .. | .groupRepeated _
  | .groupUnknown _ | .groupFileExtension _ | .newerTagSpaces .. | .ruleFileExtension _
  | .fileNameless _ | .ignorePatternBad _ | .folderUnread .. | .placementPartial ..
  | .placementMissed _ | .unnamedPatternsMissing | .unnamedPatternBad _ | .tagsLost _
  | .extensionLost _ | .renamingUnmatched _ | .windowsIssue _ | .outputOverwritten _
  | .targetKept _ | .folderOverwritten _ | .fileOverwritten _ | .unplacedSkipped _
  | .unnamedSkipped _ | .walkFailed .. | .folderNotCleaned .. | .moveAndRenameOnly
  | .moveAllIgnored | .renameManualIgnored | .organizeIgnoredOnLine | .organizeIgnoredInFile
  | .keepIgnored | .clobbering | .forceIgnoredInFile => .warning
  | .groupFileLoaded _ | .ruleFileLoaded _ | .fileIgnored _ | .fileUntagged _ | .fileRepeated _
  | .ignoreFileLoaded _ | .manualNameKept _ | .ontoItself _ | .moving .. | .folderCreated _
  | .sourceRemoved _ | .folderNotEmpty _ | .folderCleaned _ | .optionsLoaded _
  | .organizingInto _ => .information
  | .filterMatched .. | .filterUnmatched .. | .groupReferenceUnknown _ | .groupsLoaded _
  | .rulesLoaded .. | .fileFound _ | .ignorePatternCount _ | .placementComplete _
  | .nameChosen .. | .nameTaken _ | .firstRenamed .. | .firstElsewhere _
  | .settingsResolved .. => .detail

/-- The wording of an event. -/
def text : Event → String
  | .filterEmpty => "A filter was completely empty"
  | .filterMatched tags conditionSet =>
      "Tags " ++ Text.quotedList tags ++ " matched condition set " ++ conditionSet
  | .filterUnmatched tags filter =>
      "Tags " ++ Text.quotedList tags ++ " did not match any condition set in " ++ filter
  | .conditionSetStray text =>
      "A malformed condition set was encountered: \"" ++ text ++ "\""
  | .occurrenceOutsideSpan format =>
      "Occurrence operator outside of /ITER| in \"" ++ format ++ "\""
  | .spanWithoutOccurrence format =>
      "Format string has an /ITER| operator without /#|, " ++
        "colliding names will stay identical: \"" ++ format ++ "\""
  | .formatEmpty => "Completely empty format string"
  | .slashInResult format result =>
      "A \"/\" is still present after evaluating all operators, " ++
        "the format string is probably wrong. " ++
        "Format string: \"" ++ format ++ "\", output: \"" ++ result ++ "\""
  | .resultEmpty format =>
      "Completely empty format string after operators: \"" ++ format ++ "\""
  | .groupRepeated name =>
      "Tag group \"" ++ name ++ "\" multiply defined, merging the definitions"
  | .groupUnknown name => "Tag group \"" ++ name ++ "\" is not among loaded tag groups"
  | .groupReferenceUnknown name => "Reference to unknown tag group \"" ++ name ++ "\""
  | .groupsLoaded count => "Tag group table now holds " ++ Nat.repr count ++ " groups"
  | .groupFileExtension path =>
      "Tag group file does not have a .json extension: " ++ path.text
  | .groupFileLoaded path => "Loaded tag groups from " ++ path.text
  | .newerTagSpaces app settings =>
      "Newer TagSpaces format found (app " ++ app ++ ", settings " ++ Nat.repr settings ++
        "); tag group loading may be incomplete"
  | .rulesLoaded formats unnamed renamings movements =>
      "Schema holds " ++ Nat.repr formats ++ " tag formats, " ++
        Nat.repr unnamed ++ " unnamed patterns, " ++
        Nat.repr renamings ++ " renaming rules, " ++
        Nat.repr movements ++ " top-level movement filters"
  | .ruleFileExtension path => "Schema file does not have a .json extension: " ++ path.text
  | .ruleFileLoaded path => "Loaded schema from " ++ path.text
  | .fileIgnored path => "Skipping file due to ignore pattern: " ++ path.text
  | .fileFound path => "Found file to process: " ++ path.text
  | .fileUntagged path => "Skipping untagged file: " ++ path.text
  | .fileNameless path => "Skipping file with a non-UTF-8 name: " ++ path.text
  | .fileRepeated path => "Skipping double processing the file at: " ++ path.text
  | .ignoreFileUnreadable path => "Ignore file missing or cannot be opened: " ++ path.text
  | .ignoreFileLoaded path => "Loaded ignore file: " ++ path.text
  | .ignorePatternBad error => "Regex error in ignore file: " ++ error.message
  | .ignorePatternCount count => Nat.repr count ++ " ignore patterns"
  | .inputFolderMissing folder => "Error with input folder: " ++ folder.text
  | .folderUnread folder fault =>
      "Error reading input folder: IO error for operation on " ++ folder.text ++ ": " ++
        fault.message
  | .movementEmpty => "Completely empty movement schema"
  | .placementComplete tags => "Good match for moving tags: " ++ Text.quotedList tags
  | .placementPartial tags path =>
      "Failed to match a fully specified location for tags " ++ Text.quotedList tags ++
        ", sorted only to " ++ path.text ++
        ". Add a /*| filter at that level to catch all files there."
  | .placementMissed rawName => "File did not match any movement schema: " ++ rawName
  | .renamingEmpty => "Completely empty renaming schemas"
  | .unnamedPatternsMissing => "No unnamed patterns given, only forced renames will happen"
  | .unnamedPatternBad error => "Skipping unnamed pattern: " ++ error.message
  | .tagsLost format =>
      "Renaming without preserving tags will lose tagging, format string: \"" ++ format ++ "\""
  | .extensionLost format =>
      "Renaming without preserving the original extension, format string: \"" ++ format ++ "\""
  | .nameNotPlain format name rawName =>
      "Format string \"" ++ format ++ "\" produced \"" ++ name ++ "\" for " ++ rawName ++
        ", which is not a plain file name"
  | .manualNameKept path => "Skipped renaming of manually-named file: " ++ path.text
  | .renamingUnmatched rawName => "File did not match any renaming schema: " ++ rawName
  | .nameChosen rawName name => "Scheduling " ++ rawName ++ " to be renamed to " ++ name
  | .nameTaken name => "Duplicate file name " ++ name ++ ", invoking /ITER|"
  | .firstRenamed name chosen =>
      "First duplicate " ++ name ++ " now scheduled as " ++ chosen
  | .firstElsewhere name =>
      "First file named " ++ name ++ " belongs to an earlier batch, leaving it as is"
  | .windowsIssue issue => issue ++ ". Use --posix to silence Windows-specific warnings."
  | .outputTaken folder => "Aborting due to bad output folder location: " ++ folder.text
  | .outputOverwritten folder => "Overwriting file at: " ++ folder.text
  | .targetKept target => "Skipping to avoid clobbering: " ++ target.text
  | .folderOverwritten target => "Overwriting directory with file: " ++ target.text
  | .folderNotRemoved target fault =>
      "Error removing directory at " ++ target.text ++ ": " ++ fault.message
  | .fileOverwritten target => "Overwriting file: " ++ target.text
  | .outsideRefused rawName folder destination outputName =>
      "Refusing to write " ++ rawName ++ " outside of " ++ folder.text ++
        ": destination \"" ++ destination.text ++ "\", name \"" ++ outputName ++ "\""
  | .ontoItself path => "Skipping moving file onto itself at: " ++ path.text
  | .moving source target => "Moving/renaming file from " ++ source.text ++ " to " ++ target.text
  | .folderCreated folder => "Creating destination folder: " ++ folder.text
  | .copyFailed target fault =>
      "Error copying file to " ++ target.text ++ ": " ++ fault.message
  | .unplacedSkipped rawName =>
      "Skipping file, as it failed to match any movement schema: " ++ rawName
  | .unnamedSkipped rawName => "Skipping file as it could not be renamed: " ++ rawName
  | .sourceRemoved path => "Removing original file at: " ++ path.text
  | .walkFailed path fault =>
      "Could not clean directory: IO error for operation on " ++ path.text ++ ": " ++ fault.message
  | .folderNotEmpty path => "Skipping cleaning non-empty directory at: " ++ path.text
  | .folderCleaned path => "Cleaning (deleting) folder at " ++ path.text
  | .folderNotCleaned path fault =>
      "Could not clean directory at " ++ path.text ++ ": " ++ fault.message
  | .optionsLoaded path => "Loaded config file: " ++ path.text
  | .settingsResolved inputFolders outputFolders =>
      "Settings: " ++ Text.quotedList (inputFolders.map Path.text) ++ " into " ++
        Text.quotedList (outputFolders.map Path.text)
  | .moveAndRenameOnly =>
      "Received both move-only and rename-only, files will be moved and renamed"
  | .moveAllIgnored => "Ignoring move-all while only renaming files"
  | .renameManualIgnored => "Ignoring rename-manual while only moving files"
  | .inputMissing => "No input folders specified"
  | .organizeIgnoredOnLine =>
      "Both output folders and organize given on the command line, ignoring organize"
  | .organizingInto folder => "Organizing files into: " ++ folder.text
  | .organizeIgnoredInFile =>
      "Both output folders and organize given in the config file, ignoring organize"
  | .outputMissing => "Neither output folders nor organize specified"
  | .rulesMissing => "No schema specified"
  | .keepIgnored =>
      "Keeping originals while organizing in place would duplicate files, ignoring keep"
  | .clobbering => "Clobbering files in destination, this is not safe"
  | .forceIgnoredInFile =>
      "The force option has no effect in config files, set it on the command line"

end Event

end TagOrganizer
