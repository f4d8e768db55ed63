import TagOrganizer.FileTree.Operation
import TagOrganizer.Json.Decoder
import TagOrganizer.Rulebook.Basic
import TagOrganizer.Version.Gate

/-!
# Rule documents

A rulebook is read from documents. A document is read and checked completely, with every pattern and
every filter in it, before anything is added, so a document that cannot be read changes nothing.
-/

namespace TagOrganizer

namespace Rulebook

open Json.Decoder (RecordField record list text value)

/-- A tag format as a document gives it. -/
structure FormatEntry where
  name : String
  separator : String

/-- Decodes a tag format. -/
def FormatEntry.decoder : Json.Decoder FormatEntry :=
  record
    [ .must "tag_pattern" text fun pattern entry => { entry with name := pattern },
      .must "tag_split_pattern" text fun pattern entry => { entry with separator := pattern } ]
    ⟨"", ""⟩

/-- A renaming rule as a document gives it. -/
structure RenamingEntry where
  filter : Json
  format : String

/-- Decodes a renaming rule. -/
def RenamingEntry.decoder : Json.Decoder RenamingEntry :=
  record
    [ .must "filter" value fun filter entry => { entry with filter := filter },
      .must "format_string" text fun format entry => { entry with format := format } ]
    ⟨.null, ""⟩

/-- A rule of the movement tree as a document gives it. -/
inductive MovementEntry where
  | level (filter : Json) (subfolder : String) (sublevels : List MovementEntry)

namespace MovementEntry

/-- Sets the filter of a rule. -/
def setFilter (filter : Json) : MovementEntry → MovementEntry
  | level _ subfolder sublevels => level filter subfolder sublevels

/-- Sets the subfolder of a rule. -/
def setSubfolder (subfolder : String) : MovementEntry → MovementEntry
  | level filter _ sublevels => level filter subfolder sublevels

/-- Sets the sublevels of a rule. -/
def setSublevels (sublevels : List MovementEntry) : MovementEntry → MovementEntry
  | level filter subfolder _ => level filter subfolder sublevels

/-- Decodes a rule with sublevels that are nested less than `depth` deep. -/
def decoderUpTo : (depth : Nat) → Json.Decoder MovementEntry
  | 0 => fun _ draft =>
      .error (match draft with | .broken breakage => breakage.kept | _ => .malformed)
  | depth + 1 =>
      record
        [ .must "filter" value setFilter,
          .may "subfolder" text setSubfolder,
          .may "sublevels" (list (decoderUpTo depth)) setSublevels ]
        (level .null "" [])

/-- Decodes a rule of the movement tree. -/
def decoder : Json.Decoder MovementEntry := fun room => decoderUpTo (room + 1) room

mutual

/-- The rule that an entry stands for. The filters of sublevels are read first. -/
def rule : MovementEntry → Evaluation MovementRule
  | level filter subfolder sublevels => do
      let sublevels ← rules sublevels
      let filter ← Filter.ofJson filter
      return .level filter subfolder sublevels

/-- The rules that entries stand for. -/
def rules : List MovementEntry → Evaluation (List MovementRule)
  | [] => return []
  | entry :: entries => do
      let first ← rule entry
      let others ← rules entries
      return first :: others

end

end MovementEntry

/-- The content of a rule document. -/
structure Entries where
  fileType : String
  version : Json
  formats : List FormatEntry
  unnamed : List String
  renamings : List RenamingEntry
  movements : List MovementEntry

/-- Decodes a rule document. -/
def Entries.decoder : Json.Decoder Entries :=
  record
    [ .must "file_type" text fun found entries => { entries with fileType := found },
      .must "schema_file_version" value fun found entries => { entries with version := found },
      .may "tag_formats" (list FormatEntry.decoder)
        fun found entries => { entries with formats := found },
      .may "unnamed_patterns" (list text) fun found entries => { entries with unnamed := found },
      .may "renaming_schemas" (list RenamingEntry.decoder)
        fun found entries => { entries with renamings := found },
      .may "movement_schema" (list MovementEntry.decoder)
        fun found entries => { entries with movements := found } ]
    ⟨"", .null, [], [], [], []⟩

/-- The `file_type` of rule documents. -/
def fileType : String := "tagsort_schema"

/-- The oldest version of rule documents that is supported. -/
def oldestVersion : String := "1.0"

/-- The newest version of rule documents that is supported. -/
def newestVersion : String := "1.1"

/-- The renaming rule that an entry stands for. -/
def RenamingEntry.rule (entry : RenamingEntry) : Evaluation RenamingRule := do
  let filter ← Filter.ofJson entry.filter
  return ⟨filter, entry.format⟩

/-- The tag formats that entries stand for. -/
def tagFormatsOf (entries : List FormatEntry) : Except Error (List TagFormat) :=
  entries.mapM fun entry => TagFormat.parse entry.name entry.separator

/-- The rulebook that the content of a document stands for. -/
def ofEntries (entries : Entries) : Evaluation Rulebook := do
  if entries.fileType ≠ fileType then throw (.wrongFileType fileType entries.fileType)
  Version.requireSupported .rules entries.version oldestVersion newestVersion
  let tagFormats ← tagFormatsOf entries.formats
  let renamingRules ← entries.renamings.mapM RenamingEntry.rule
  let movementRules ← MovementEntry.rules entries.movements
  return { tagFormats, unnamedPatterns := entries.unnamed, renamingRules, movementRules }

/-- Adds the rules of a document; unless `append` is on, the rules so far are dropped. -/
def loadEntries (entries : Entries) (append : Bool) : Act Rulebook Unit := do
  let loaded ← ofEntries entries
  modify fun rulebook => if append then rulebook.append loaded else loaded
  let rulebook ← get
  tell (.rulesLoaded rulebook.tagFormats.length rulebook.unnamedPatterns.length
    rulebook.renamingRules.length rulebook.movementRules.length)

/-- Adds the rules of a document that is given as a value. -/
def loadValue (document : Json) (append : Bool) : Act Rulebook Unit := do
  let entries ← (Json.Decoder.ofJson Entries.decoder document).mapError Error.unreadable
  loadEntries entries append

/-- Adds the rules of a document that is given as a text. -/
def loadText (document : String) (append : Bool) : Act Rulebook Unit := do
  let entries ← (Json.Decoder.ofText Entries.decoder document).mapError Error.unreadable
  loadEntries entries append

/-- Tells about the name of a file that does not look like a document. -/
def checkName (path : Path) : Logged Unit := do
  if path.extension? ≠ some "json" then tell (.ruleFileExtension path)

/-- Adds the rules of a document in a file, whatever the file is called. -/
def loadContent (tree : FileTree) (path : Path) (append : Bool) : Act Rulebook Unit := do
  let document ← tree.readFile path
  loadText document append
  tell (.ruleFileLoaded path)

/-- Adds the rules of a document in a file. -/
def loadFile (tree : FileTree) (path : Path) (append : Bool) : Act Rulebook Unit := do
  (checkName path : Logged Unit)
  loadContent tree path append

end Rulebook

end TagOrganizer
