import TagOrganizer.FileTree.Lookup

/-!
# Changing trees

The changes that a run makes: folders are made, files are written, copied and removed, and folders
are removed. A change that fails leaves the tree as it was, except that the folders on the way to a
folder that cannot be made stay.
-/

namespace TagOrganizer

namespace FileTree

/-- Makes one folder. -/
def makeFolder (tree : FileTree) (path : Path) : Except StorageFault FileTree := do
  match ← tree.locateLast path with
  | (folder, .name name) =>
      match tree.find? (folder ++ [name]) with
      | some _ => throw .alreadyExists
      | none => return tree.put (folder ++ [name]) .folder
  | _ => throw .alreadyExists

/-- Makes a folder where its parent exists, unless there is one already. -/
def ensureFolder (tree : FileTree) (path : Path) : FileTree × Except StorageFault Unit :=
  match tree.makeFolder path with
  | .ok tree => (tree, .ok ())
  | .error fault => (tree, if tree.isFolder path then .ok () else .error fault)

/-- Makes a folder and the folders on the way to it, at most `count` of them. -/
def makeFoldersUpTo :
    (count : Nat) → FileTree → Path → FileTree × Except StorageFault Unit
  | 0, tree, _ => (tree, .error .notFound)
  | count + 1, tree, path =>
      if path.components.isEmpty then (tree, .ok ())
      else
        match tree.makeFolder path with
        | .ok tree => (tree, .ok ())
        | .error .notFound =>
            match path.parent? with
            | none => (tree, .error .notFound)
            | some parent =>
                match makeFoldersUpTo count tree parent with
                | (tree, .ok ()) => tree.ensureFolder path
                | (tree, .error fault) => (tree, .error fault)
        | .error fault => (tree, if tree.isFolder path then .ok () else .error fault)

/-- Makes a folder and the folders on the way to it. -/
def makeFolders (tree : FileTree) (path : Path) : FileTree × Except StorageFault Unit :=
  makeFoldersUpTo (path.components.length + 1) tree path

/-- Where a file can be written: links are followed, and what is there may not be a folder. -/
def locateForWriting (tree : FileTree) (path : Path) : Except StorageFault Location := do
  if endsInSlash path then
    let _ ← tree.locateLast path
    throw .isFolder
  else
    let location ← tree.locate true path
    match tree.find? location with
    | some .folder => throw .isFolder
    | _ => return location

/-- Writes a file, in place of what is in it. -/
def writeText (tree : FileTree) (path : Path) (content : String) :
    Except StorageFault FileTree := do
  let location ← tree.locateForWriting path
  return tree.put location (.file content)

/-- Makes a file, unless there is one. -/
def touch (tree : FileTree) (path : Path) : Except StorageFault FileTree := do
  let location ← tree.locateForWriting path
  match tree.find? location with
  | some _ => return tree
  | none => return tree.put location (.file "")

/--
Copies a file over what is at the target. The target is emptied before anything is written, so that
nothing is left of a file that is copied onto itself.
-/
def copyFile (tree : FileTree) (source target : Path) : Except StorageFault FileTree := do
  match ← tree.lookUp true source with
  | (origin, .file content) =>
      let place ← tree.locateForWriting target
      return tree.put place (.file (if place = origin then "" else content))
  | _ => throw .notRegular

/-- Removes a file or a link. -/
def removeFile (tree : FileTree) (path : Path) : Except StorageFault FileTree := do
  match ← tree.locateLast path with
  | (folder, .name name) =>
      let location := folder ++ [name]
      match tree.find? location with
      | none => throw .notFound
      | some .folder => throw .isFolder
      | some _ => if endsInSlash path then throw .notFolder else return tree.erase location
  | _ => throw .isFolder

/-- Removes a folder without entries. -/
def removeFolder (tree : FileTree) (path : Path) : Except StorageFault FileTree := do
  match ← tree.locateLast path with
  | (_, .root) => throw .busy
  | (_, .current) => throw .invalidPath
  | (_, .up) => throw .notEmpty
  | (folder, .name name) =>
      let location := folder ++ [name]
      match tree.find? location with
      | none => throw .notFound
      | some .folder =>
          if tree.isHollow location then return tree.erase location else throw .notEmpty
      | some _ => throw .notFolder

/-- Removes a folder with all that is in it; of a link, only the link. -/
def removeTree (tree : FileTree) (path : Path) : Except StorageFault FileTree := do
  match ← tree.lookUp false path with
  | (location, .folder) =>
      if location = [] then throw .busy else return tree.eraseBelow location
  | (location, .link _) => return tree.erase location
  | _ => throw .notFolder

end FileTree

end TagOrganizer
