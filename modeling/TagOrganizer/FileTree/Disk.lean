import TagOrganizer.Event.Line
import TagOrganizer.FileTree.Change
import TagOrganizer.Text.Overwrite

/-!
# Disks

A disk is a tree of files and folders and the journal of the run that works on it: an open file
that every event is written to as soon as it is told, so that the run itself can read, copy or
remove what it has told so far. The journal follows its file and not the name of the file: once the
file has been removed nothing is written any more, whatever takes its place.
-/

namespace TagOrganizer

/-- A file that is open for the events of a run. -/
structure Journal where
  location : Location
  /-- The time that lines begin with. -/
  stamp : String
  /-- The least severe events that are written. -/
  threshold : Severity
  /-- The byte that the next line is written at; without it a line goes to the end of the file. -/
  position : Option Nat

namespace Journal

/-- The line for an event, if the event is severe enough. -/
def line? (journal : Journal) (event : Event) : Option String :=
  if event.severity.reaches journal.threshold then some (event.fileLine journal.stamp) else none

/-- Whether the file is still in a tree. -/
def isIn (journal : Journal) (tree : FileTree) : Bool :=
  match tree.find? journal.location with
  | some (.file _) => true
  | _ => false

/-- The content of the file after a line has been written. -/
def contentAfter (journal : Journal) (line content : String) : String :=
  match journal.position with
  | none => content ++ line
  | some position => Text.overwrite position line content

/-- The journal after a line has been written. -/
def advance (journal : Journal) (line : String) : Journal :=
  { journal with position := journal.position.map (· + line.utf8ByteSize) }

end Journal

/-- A tree of files and folders, and the journal of the run that works on it. -/
structure Disk where
  tree : FileTree
  journal : Option Journal

namespace Disk

/-- A disk on which no journal is kept. -/
def bare (tree : FileTree) : Disk :=
  ⟨tree, none⟩

/-- Writes a line to a journal. -/
def write (disk : Disk) (journal : Journal) (line : String) : Disk :=
  match disk.tree.find? journal.location with
  | some (.file content) =>
      let node := Node.file (journal.contentAfter line content)
      ⟨disk.tree.put journal.location node, some (journal.advance line)⟩
  | _ => disk

/-- Writes an event to the journal, if there is one. -/
def note (disk : Disk) (event : Event) : Disk :=
  match disk.journal with
  | none => disk
  | some journal =>
      match journal.line? event with
      | some line => disk.write journal line
      | none => disk

/-- Writes events to the journal, one after the other. -/
def noteAll (disk : Disk) (events : List Event) : Disk :=
  events.foldl note disk

/-- Puts another tree in place of the one on a disk; a journal whose file is gone is closed. -/
def setTree (disk : Disk) (tree : FileTree) : Disk :=
  ⟨tree, disk.journal.filter fun journal => journal.isIn tree⟩

@[simp]
theorem tree_bare (tree : FileTree) : (bare tree).tree = tree := rfl

@[simp]
theorem note_bare (tree : FileTree) (event : Event) : (bare tree).note event = bare tree := rfl

@[simp]
theorem noteAll_bare (tree : FileTree) (events : List Event) :
    (bare tree).noteAll events = bare tree := by
  induction events with
  | nil => rfl
  | cons event events ih => exact ih

@[simp]
theorem setTree_bare (tree other : FileTree) : (bare tree).setTree other = bare other := rfl

end Disk

end TagOrganizer
