import TagOrganizer.FileTree.Operation
import TagOrganizer.FileTree.Walk
import TagOrganizer.Report

/-!
# Pruning folders

Folders without entries are removed from below a folder, those inside others first, so that a folder
that holds nothing but such folders goes too. The folder itself stays. A trial run only tells.
-/

namespace TagOrganizer

namespace Pruning

/-- What has been done so far: the folders removed, and how many folders made trouble. -/
structure Tally where
  removed : List Path
  failures : Nat

/-- Whether the folder at a path has no entries. -/
def isHollow (tree : FileTree) (path : Path) : Except StorageFault Bool := do
  match ← tree.lookUp true path with
  | (location, .folder) => return tree.isHollow location
  | _ => throw .notFolder

/-- Tells that a folder made trouble. -/
def fail (path : Path) (fault : StorageFault) (tally : Tally) : Operation Tally := do
  tell (.folderNotCleaned path fault)
  return { tally with failures := tally.failures + 1 }

/-- Removes a folder if it has no entries. -/
def pruneFolder (trial : Bool) (tally : Tally) (path : Path) : Operation Tally := do
  match isHollow (← Operation.tree) path with
  | .error fault => fail path fault tally
  | .ok false =>
      tell (.folderNotEmpty path)
      return tally
  | .ok true =>
      tell (.folderCleaned path)
      let outcome ←
        if trial then pure (.ok ())
        else Operation.attempt fun tree => tree.removeFolder path
      match outcome with
      | .ok () => return { tally with removed := tally.removed ++ [path] }
      | .error fault => fail path fault tally

/-- Prunes a folder that is reported; one that could not be read makes trouble. -/
def pruneReported (trial : Bool) (tally : Tally) :
    Except FileTree.Unread Path → Operation Tally
  | .ok path => pruneFolder trial tally path
  | .error unread => do
      tell (.walkFailed unread.folder unread.fault)
      return { tally with failures := tally.failures + 1 }

/-- Removes the folders without entries among those that are reported, one after the other. -/
def pruneAll (trial : Bool) (reported : List (Except FileTree.Unread Path)) : Operation Tally :=
  reported.foldlM (pruneReported trial) ⟨[], 0⟩

/-- What has been done below a folder. -/
def prune (folder : Path) (trial : Bool) : Operation Tally := do
  match (← Operation.tree).foldersBelow folder with
  | .ok reported => pruneAll trial reported
  | .error fault => pruneAll trial [.error ⟨folder, fault⟩]

/-- Removes the folders without entries below a folder, and reports them. -/
def run (folder : Path) (trial : Bool) : Operation Report := do
  let tally ← prune folder trial
  let verb := if trial then "Would remove " else "Removed "
  let count := Message.information
    (verb ++ Nat.repr tally.removed.length ++ " empty folder(s) in " ++ folder.text)
  let failures :=
    if tally.failures = 0 then []
    else
      [Message.error
        ("Could not clean " ++ Nat.repr tally.failures ++ " folder(s) in " ++ folder.text)]
  return { Report.empty with removed := tally.removed, messages := count :: failures }

end Pruning

end TagOrganizer
