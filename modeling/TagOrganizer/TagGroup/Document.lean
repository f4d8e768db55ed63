import TagOrganizer.FileTree.Operation
import TagOrganizer.Json.Decoder
import TagOrganizer.TagGroup.Basic
import TagOrganizer.Version.Gate

/-!
# Group documents

Groups are read from documents of three formats: group files, category files and the export format
of TagSpaces. A document is read completely before anything is added to a table, so a document that
cannot be read changes nothing.
-/

namespace TagOrganizer

namespace TagGroup

open Json.Decoder (RecordField record list text natural value)

/-- A group as a document gives it. -/
structure Entry where
  name : String
  tags : List String
  patterns : List String

/-- Decodes a group of a group or category file. -/
def Entry.decoder : Json.Decoder Entry :=
  record
    [ .must "name" text fun name entry => { entry with name := name },
      .may "tags" (list text) fun tags entry => { entry with tags := tags },
      .may "patterns" (list text) fun patterns entry => { entry with patterns := patterns } ]
    ⟨"", [], []⟩

/-- The content of a group or category file. -/
structure GroupFile where
  version : Json
  entries : List Entry

/-- Decodes a file whose version and groups are in the given fields. -/
def GroupFile.decoder (version entries : String) : Json.Decoder GroupFile :=
  record
    [ .must version value fun found file => { file with version := found },
      .must entries (list Entry.decoder) fun found file => { file with entries := found } ]
    ⟨.null, []⟩

/-- The content of an export of TagSpaces. -/
structure TagSpacesExport where
  appVersion : String
  settingsVersion : Nat
  entries : List Entry

namespace TagSpacesExport

/-- Decodes a tag. -/
def tagDecoder : Json.Decoder String :=
  record [.must "title" text fun title _ => title] ""

/-- Decodes a group. -/
def entryDecoder : Json.Decoder Entry :=
  record
    [ .must "title" text fun title entry => { entry with name := title },
      .may "children" (list tagDecoder) fun tags entry => { entry with tags := tags } ]
    ⟨"", [], []⟩

/-- Decodes an export. -/
def decoder : Json.Decoder TagSpacesExport :=
  record
    [ .must "appVersion" text fun version file => { file with appVersion := version },
      .must "settingsVersion" natural fun version file => { file with settingsVersion := version },
      .must "tagGroups" (list entryDecoder) fun entries file => { file with entries := entries } ]
    ⟨"", 0, []⟩

/-- The newest version of the application whose exports are known. -/
def knownApp : Version := ⟨[3, 1, 4]⟩

/-- The newest version of its settings whose exports are known. -/
def knownSettings : Nat := 3

/-- Whether an export comes from a newer version than is known. -/
def isNewer (file : TagSpacesExport) : Bool :=
  (match Version.parse? file.appVersion with
    | some version => version.compare knownApp == .gt
    | none => true) ||
    knownSettings < file.settingsVersion

end TagSpacesExport

/-- The `file_type` of group files. -/
def groupFileType : String := "tagsort_tag_groups"

/-- The `file_type` of category files. -/
def categoryFileType : String := "tagsort_tag_categories"

/-- The only version of group and category files. -/
def fileVersion : String := "1.0"

/-- Decodes a value whose shape is known. -/
def decode {α : Type} (decoder : Json.Decoder α) (document : Json) : Except Error α :=
  (Json.Decoder.ofJson decoder document).mapError Error.unreadable

/-- The groups of a document of a known format. -/
def entriesOf (document : Json) : Evaluation (List Entry) := do
  match (document.get? "file_type").bind Json.asText? with
  | some fileType =>
      if fileType = groupFileType then
        let file ← decode (GroupFile.decoder "tag_group_file_version" "tag_groups") document
        Version.requireSupported .groups file.version fileVersion fileVersion
        return file.entries
      else if fileType = categoryFileType then
        let file ← decode (GroupFile.decoder "category_file_version" "categories") document
        Version.requireSupported .categories file.version fileVersion fileVersion
        return file.entries
      else throw .unknownGroupFormat
  | none =>
      if (document.get? "tagGroups").isSome then
        let file ← decode TagSpacesExport.decoder document
        if file.isNewer then tell (.newerTagSpaces file.appVersion file.settingsVersion)
        return file.entries
      else throw .unknownGroupFormat

/-- The members that a group of a document has. -/
def Entry.members (entry : Entry) : Except Error (List Member) := do
  let patterns ← entry.patterns.mapM Member.ofPattern
  return entry.tags.map Member.ofEntry ++ patterns

/-- The groups of a document with their members. -/
def definitionsOf (document : Json) : Evaluation (List (String × List Member)) := do
  let entries ← entriesOf document
  let members ← (entries.mapM Entry.members : Except Error (List (List Member)))
  return (entries.map Entry.name).zip members

end TagGroup

namespace GroupTable

/-- Adds the groups of a document; unless `append` is on, the groups so far are dropped. -/
def loadValue (document : Json) (append : Bool) : Act GroupTable Unit := do
  let definitions ← TagGroup.definitionsOf document
  if !append then set empty
  for (name, members) in definitions do
    insert name members
  tell (.groupsLoaded (← get).size)

/-- Adds the groups of a document that is given as a text. -/
def loadText (document : String) (append : Bool) : Act GroupTable Unit := do
  let value ← (Json.ofText document).mapError Error.unreadable
  loadValue value append

/-- Tells about the name of a file that does not look like a document. -/
def checkName (path : Path) : Logged Unit := do
  if path.extension? ≠ some "json" then tell (.groupFileExtension path)

/-- Adds the groups of a document in a file, whatever the file is called. -/
def loadContent (tree : FileTree) (path : Path) (append : Bool) : Act GroupTable Unit := do
  let document ← tree.readFile path
  loadText document append
  tell (.groupFileLoaded path)

/-- Adds the groups of a document in a file. -/
def loadFile (tree : FileTree) (path : Path) (append : Bool) : Act GroupTable Unit := do
  (checkName path : Logged Unit)
  loadContent tree path append

end GroupTable

end TagOrganizer
