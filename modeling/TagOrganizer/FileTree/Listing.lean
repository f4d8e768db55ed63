import TagOrganizer.FileTree.Change
import TagOrganizer.Json.Decoder

/-!
# Listings

A listing gives the files, folders and links of a tree one by one, with paths that begin at the
folder of the tree. A tree is built from a listing entry by entry, and listed in the order of its
paths. An entry is also written as a record: its path, and the content of a file or the target of a
link.
-/

namespace TagOrganizer

namespace FileTree

/-- An entry of a listing. -/
structure Entry where
  path : Path
  node : Node

/-- A tree that holds nothing but the folder that relative paths begin at. -/
def bare (here : Location) : FileTree :=
  ⟨(List.range here.length).map fun count => (here.take (count + 1), .folder), here, []⟩

/-- Makes the folders on the way to a path, as far as that goes. -/
def addParents (tree : FileTree) (path : Path) : FileTree :=
  match path.parent? with
  | some parent => (tree.makeFolders parent).1
  | none => tree

/-- Makes a link. -/
def makeLink (tree : FileTree) (path target : Path) : Except StorageFault FileTree := do
  match ← tree.locateLast path with
  | (folder, .name name) =>
      match tree.find? (folder ++ [name]) with
      | some _ => throw .alreadyExists
      | none => return tree.put (folder ++ [name]) (.link target)
  | _ => throw .alreadyExists

/-- Adds an entry and the folders on the way to it. -/
def add (tree : FileTree) (entry : Entry) : Except StorageFault FileTree :=
  match entry.node with
  | .folder => .ok (tree.makeFolders entry.path).1
  | .file content => (tree.addParents entry.path).writeText entry.path content
  | .link target => (tree.addParents entry.path).makeLink entry.path target

/-- Adds the entries of a listing. One that cannot be added is left out. -/
def addAll (tree : FileTree) (entries : List Entry) : FileTree :=
  entries.foldl (fun tree entry => (tree.add entry).toOption.getD tree) tree

/-- The entries below the folder that relative paths begin at, in the order of their paths. -/
def listing (tree : FileTree) : List Entry :=
  let below := tree.entries.filterMap fun (location, node) =>
    let names := location.drop tree.here.length
    if tree.here.isPrefixOf location && !names.isEmpty then
      some ⟨⟨"/".intercalate names⟩, node⟩
    else none
  below.mergeSort fun left right => left.path.text ≤ right.path.text

namespace Entry

open Json.Decoder (RecordField text)

/-- Decodes an entry: with a `text` it is a file, with a `target` a link, and otherwise a folder. -/
def decoder : Json.Decoder Entry :=
  Json.Decoder.record
    [ .must "path" text fun value entry => { entry with path := ⟨value⟩ },
      .may "text" text fun value entry => { entry with node := .file value },
      .may "target" text fun value entry => { entry with node := .link ⟨value⟩ } ]
    ⟨Path.empty, .folder⟩

/-- An entry as a value. -/
def toJson (entry : Entry) : Json :=
  let details := match entry.node with
    | .folder => []
    | .file content => [("text", Json.text content)]
    | .link target => [("target", Json.text target.text)]
  Json.ofFields (("path", .text entry.path.text) :: details)

end Entry

end FileTree

end TagOrganizer
