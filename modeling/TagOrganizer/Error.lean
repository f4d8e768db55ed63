import TagOrganizer.FileTree.Fault
import TagOrganizer.Json.Printer
import TagOrganizer.Json.Token
import TagOrganizer.Path

/-!
# Errors

The causes for which a run or a step of it ends, and their wording.
-/

namespace TagOrganizer

/-- The kinds of documents that carry a version number. -/
inductive Document where
  | groups
  | categories
  | rules
  deriving DecidableEq

/-- How a kind of document is called. -/
def Document.name : Document → String
  | .groups => "tag group file"
  | .categories => "category file"
  | .rules => "schema file"

/-- Why a run or a step of it ends early. -/
inductive Error where
  /-- A text that is not a condition. -/
  | malformedCondition (text : String)
  /-- A condition set without any condition. -/
  | emptyConditionSet (text : String)
  /-- A filter without any condition set was evaluated. -/
  | emptyFilter
  /-- A filter is not written as an array. -/
  | filterNotArray (value : Json)
  /-- A condition set is not written as a text. -/
  | conditionSetNotText (value : Json)
  /-- There is no movement rule at all. -/
  | emptyMovement
  /-- A format is the empty text. -/
  | emptyFormat
  /-- A format comes out as the empty text. -/
  | emptyResult (format : String)
  /-- An occurrence number is wanted outside of an iteration span. -/
  | occurrenceOutsideSpan (format : String)
  /-- An iteration span is not closed. -/
  | unclosedSpan (format : String)
  /-- An iteration marker is left where none may be. -/
  | unresolvedSpan (format : String)
  /-- A conditional lacks one of its markers. -/
  | incompleteConditional (format : String)
  /-- A document is of a version that is not supported. -/
  | unsupportedVersion (document : Document) (found oldest newest : String)
  /-- A text is not a version number. -/
  | unreadableVersion (text : String)
  /-- A document says that it is of another type. -/
  | wrongFileType (expected found : String)
  /-- A group document is of no known format. -/
  | unknownGroupFormat
  /-- There is no renaming rule at all. -/
  | noRenamingRules
  /-- A text is not a regular expression. -/
  | invalidPattern (pattern : String)
  /-- A folder that is to be scanned does not exist. -/
  | missingInputFolder (folder : Path)
  /-- A file stands where an output folder should be. -/
  | fileAtOutput (folder : Path)
  /-- No input folder is given. -/
  | noInputFolder
  /-- No output folder is given. -/
  | noOutputFolder
  /-- No rule document is given. -/
  | noRules
  /-- Files or folders cannot be read or changed. -/
  | storage (fault : StorageFault)
  /-- A data text or value cannot be read. -/
  | unreadable (fault : Json.Fault)

namespace Error

/-- The wording of a fault of a data text. -/
def faultText : Json.Fault → String
  | .malformed => "malformed text"
  | .truncated => "the text ends too early"
  | .mismatched => "a value is of the wrong shape"

/-- The wording of a flaw of a format. -/
def malformedFormat (format reason : String) : String :=
  "Malformed format string \"" ++ format ++ "\": " ++ reason

/-- The wording of an error. -/
def message : Error → String
  | .malformedCondition text => "Malformed condition encountered: \"" ++ text ++ "\""
  | .emptyConditionSet text =>
      "Malformed condition set encountered: completely empty (\"" ++ text ++ "\")"
  | .emptyFilter => "Malformed filter encountered: completely empty"
  | .filterNotArray value =>
      "Malformed filter encountered: expected an array of condition sets, found " ++
        value.kindName ++ " (" ++ value.compact ++ ")"
  | .conditionSetNotText value =>
      "Wrong type in filter: expected a string, found " ++ value.kindName ++
        " (" ++ value.compact ++ ")"
  | .emptyMovement => "Completely empty movement schema"
  | .emptyFormat => "Completely empty format string"
  | .emptyResult format => "Completely empty format string after operators: \"" ++ format ++ "\""
  | .occurrenceOutsideSpan format =>
      "Occurrence operator /#| found outside of an /ITER| operator in \"" ++ format ++ "\""
  | .unclosedSpan format => malformedFormat format "/ITER| without a closing /EITER|"
  | .unresolvedSpan format =>
      malformedFormat format "iteration operators must be resolved before substitution"
  | .incompleteConditional format =>
      malformedFormat format "conditional is missing its /T|, /F| or /E?| marker"
  | .unsupportedVersion document found oldest newest =>
      "Unsupported " ++ document.name ++ " version " ++ found ++
        " (supported: " ++ oldest ++ " to " ++ newest ++ ")"
  | .unreadableVersion text => "Invalid schema: Unreadable version number: \"" ++ text ++ "\""
  | .wrongFileType expected found =>
      "Invalid schema: expected file_type \"" ++ expected ++ "\", found \"" ++ found ++ "\""
  | .unknownGroupFormat => "Invalid schema: Tag group data does not match any known format"
  | .noRenamingRules => "Invalid schema: completely empty renaming schemas"
  | .invalidPattern pattern => "Invalid regex pattern \"" ++ pattern ++ "\""
  | .missingInputFolder folder =>
      "Configuration error: input folder does not exist: " ++ folder.text
  | .fileAtOutput folder =>
      "Configuration error: a file exists at the output folder location: " ++ folder.text
  | .noInputFolder => "Configuration error: no input folders specified"
  | .noOutputFolder => "Configuration error: neither output folders nor organize specified"
  | .noRules => "Configuration error: no schema specified"
  | .storage fault => "IO error: " ++ fault.message
  | .unreadable fault => "Serialization error: " ++ faultText fault

end Error

end TagOrganizer
