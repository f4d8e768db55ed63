import TagOrganizer.FileTree.Disk
import TagOrganizer.Settings

/-!
# Logs

The events of a run that are severe enough to be logged, and the log file, which is the journal of
the run.
-/

namespace TagOrganizer

namespace LogSettings

/-- The events that are logged. -/
def select (settings : LogSettings) (events : List Event) : List Event :=
  events.filter fun event => event.severity.reaches settings.threshold

/--
Opens the log file, if there is one: it is made, or emptied if that is wanted. The lines of the run
go to the end of a file that is kept, and to the front of one that is emptied.
-/
def openFile (settings : LogSettings) (stamp : String) (tree : FileTree) :
    Except StorageFault Disk :=
  match settings.file with
  | none => return Disk.bare tree
  | some path => do
      let location ← tree.locateForWriting path
      let opened ← if settings.overwrite then tree.writeText path "" else tree.touch path
      let position := if settings.overwrite then some 0 else none
      return ⟨opened, some { location, stamp, threshold := settings.threshold, position }⟩

end LogSettings

end TagOrganizer
