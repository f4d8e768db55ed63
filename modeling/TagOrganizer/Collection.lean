import TagOrganizer.FileTree.Operation
import TagOrganizer.FileTree.Walk
import TagOrganizer.Report

/-!
# Collecting files

A collector gathers the tagged files of folders. Each file is loaded once, however often it is
reached; names that match an ignore pattern are passed over.
-/

namespace TagOrganizer

/-- Which files of a folder are collected. -/
structure ScanOptions where
  /-- Files in folders inside the folder, too. -/
  recursive : Bool
  /-- Files and folders whose names begin with a dot, too. -/
  hidden : Bool

/-- The files that have been collected so far. -/
structure Collector where
  formats : List TagFormat
  ignored : List Pattern
  files : List TaggedFile
  /-- Where the files are, so that no file is loaded twice. -/
  seen : List (List Path.Component)

/-- An act on a collector. -/
abbrev Collecting := Act Collector

namespace Collector

/-- A collector that has collected nothing. -/
def start (formats : List TagFormat) : Collector :=
  ⟨formats, [], [], []⟩

/-- What tells files apart: the location of what a path leads to, or else the path. -/
def keyOf (tree : FileTree) (path : Path) : List Path.Component :=
  match tree.resolved? path with
  | some location => .root :: location.map .name
  | none => path.components

/-- Loads a file if it is tagged and has not been loaded; gives whether it was added. -/
def loadFile (tree : FileTree) (path : Path) : Collecting Bool := do
  match path.fileName?.filter tree.isText with
  | none =>
      tell (.fileNameless path)
      return false
  | some name =>
      let collector ← get
      let key := keyOf tree path
      if collector.seen.contains key then
        tell (.fileRepeated path)
        return false
      match ← (TaggedFile.ofName name path collector.formats collector.ignored : Logged _) with
      | none => return false
      | some file =>
          set { collector with files := collector.files ++ [file], seen := key :: collector.seen }
          return true

/-- Loads a file that has been reached, or tells of a folder that could not be read. -/
def loadReached (tree : FileTree) : Except FileTree.Unread Path → Collecting Unit
  | .ok path => do
      let _ ← loadFile tree path
  | .error unread => tell (.folderUnread unread.folder unread.fault)

/-- Loads the tagged files of a folder and gives how many were added. -/
def loadFolder (tree : FileTree) (options : ScanOptions) (folder : Path) : Collecting Nat := do
  match (tree.lookUp true folder).toOption with
  | some (location, .folder) =>
      let before := (← get).files.length
      for reached in tree.filesBelow options.recursive options.hidden location folder do
        loadReached tree reached
      return (← get).files.length - before
  | _ =>
      tell (.inputFolderMissing folder)
      throw (.missingInputFolder folder)

/-- Adds one ignore pattern; one that cannot be read is left out. -/
def addIgnorePattern (text : String) : Collecting Unit := do
  match Pattern.whole text with
  | .ok pattern =>
      modify fun collector => { collector with ignored := collector.ignored ++ [pattern] }
  | .error error => tell (.ignorePatternBad error)

/-- Adds the ignore patterns of some lines, of which blank ones do not count. -/
def addIgnorePatterns (lines : List String) : Collecting Unit := do
  for line in (lines.map Text.trim).filter fun line => line != "" do
    addIgnorePattern line
  tell (.ignorePatternCount (← get).ignored.length)

/-- Adds the ignore patterns of a file, one in a line. -/
def loadIgnoreFile (tree : FileTree) (path : Path) : Collecting Unit := do
  match tree.readText path with
  | .ok content =>
      addIgnorePatterns (Text.lines content)
      tell (.ignoreFileLoaded path)
  | .error fault =>
      tell (.ignoreFileUnreadable path)
      throw (.storage fault)

/-- Loads the tagged files of folders, and reports how many were found in each. -/
def scan (tree : FileTree) (options : ScanOptions) (folders : List Path) :
    Collecting Report := do
  let messages ← folders.mapM fun folder => do
    let found ← loadFolder tree options folder
    return Message.information
      ("Found " ++ Nat.repr found ++ " tagged file(s) in " ++ folder.text)
  return { Report.empty with files := (← get).files, messages := messages }

end Collector

end TagOrganizer
