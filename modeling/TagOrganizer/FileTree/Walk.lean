import TagOrganizer.FileTree.Lookup

/-!
# Walking through trees

The files and folders below a folder, with the paths under which they are reached. The entries of a
folder come in the order of their names. Links are not followed, except that the folder itself may
be given by a link. Each folder is read under its path. If the path is too long for that, the walk
says so and goes on behind the folder.
-/

namespace TagOrganizer

namespace FileTree

/-- Whether a name is hidden: it is a text that begins with a dot. -/
def isHiddenName (tree : FileTree) (name : String) : Bool :=
  tree.isText name && name.toList.head? = some '.'

/-- A folder that could not be read. -/
structure Unread where
  folder : Path
  fault : StorageFault

/-- The entries of a folder that is read under a path. -/
def readFolder (tree : FileTree) (folder : Location) (path : Path) :
    Except Unread (List (String × Node)) :=
  match textFault? path with
  | some fault => .error ⟨path, fault⟩
  | none => .ok (tree.children folder)

/--
The files in a folder and in the folders in it, nested at most `depth` deep; the content of a folder
comes at its place among its siblings. Hidden entries are left out unless `hidden` is on.
-/
def filesWithin (tree : FileTree) (hidden : Bool) :
    (depth : Nat) → (folder : Location) → (path : Path) → List (Except Unread Path)
  | 0, _, _ => []
  | depth + 1, folder, path =>
      match tree.readFolder folder path with
      | .error unread => [.error unread]
      | .ok children =>
          children.flatMap fun (name, node) =>
            if tree.isHiddenName name && !hidden then []
            else
              match node with
              | .file _ => [.ok (path.join ⟨name⟩)]
              | .folder => filesWithin tree hidden depth (folder ++ [name]) (path.join ⟨name⟩)
              | .link _ => []

/-- The files below a folder, or only those right in it unless `recursive` is on. -/
def filesBelow (tree : FileTree) (recursive hidden : Bool) (folder : Location) (path : Path) :
    List (Except Unread Path) :=
  tree.filesWithin hidden (if recursive then tree.entries.length + 1 else 1) folder path

/-- Folders whose content has been visited while they wait to be reported, the last one first. -/
structure Visit where
  /-- The folders that have been reported, in order, among those that could not be read. -/
  reported : List (Except Unread Path)
  waiting : List Path

/-- Reports the folders that wait, the last one first, until only `kept` are left. -/
def Visit.flush (kept : Nat) (visit : Visit) : Visit :=
  let count := visit.waiting.length - kept
  ⟨visit.reported ++ (visit.waiting.take count).map .ok, visit.waiting.drop count⟩

/--
Visits the folders below a folder, whose content is visited before they are reported. `level` says
how deep the folder is nested, counting from one.
-/
def visitFolders (tree : FileTree) :
    (depth : Nat) → (level : Nat) → (folder : Location) → (path : Path) → Visit → Visit
  | 0, _, _, _, visit => visit
  | depth + 1, level, folder, path, visit =>
      match tree.readFolder folder path with
      | .error unread => { visit with reported := visit.reported ++ [.error unread] }
      | .ok children =>
          children.foldl
            (fun visit (name, node) =>
              match node with
              | .folder =>
                  let below := path.join ⟨name⟩
                  let entered := { visit with waiting := below :: visit.waiting }
                  (visitFolders tree depth (level + 1) (folder ++ [name]) below entered).flush level
              | _ => visit)
            visit

/--
The folders below the folder at a path, those inside a folder before it. If the path is a link, the
folder at its end does not wait itself, so that each folder is reported only when a later one of its
level is, or not at all.
-/
def foldersBelow (tree : FileTree) (path : Path) :
    Except StorageFault (List (Except Unread Path)) := do
  match ← tree.lookUp false path with
  | (location, .folder) =>
      return (tree.visitFolders (tree.entries.length + 1) 1 location path ⟨[], [path]⟩).reported
  | (_, .file _) => return []
  | (_, .link _) =>
      match ← tree.lookUp true path with
      | (location, .folder) =>
          return (tree.visitFolders (tree.entries.length + 1) 1 location path ⟨[], []⟩).reported
      | _ => return []

end FileTree

end TagOrganizer
