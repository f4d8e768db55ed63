import TagOrganizer.FileTree.Basic

/-!
# Following paths

A path is followed name by name from the root or from the folder that relative paths begin at. A
link on the way is followed; a link at the end only where that is wanted. The last name of a path
may be missing in its folder, all others may not.
-/

namespace TagOrganizer

namespace FileTree

/-- How many links are followed for one path. -/
def mostLinks : Nat := 40

/-- How many bytes a name may have. -/
def mostNameBytes : Nat := 255

/-- How many bytes a path has to stay below. -/
def pathByteLimit : Nat := 4096

/-- Why the text of a path cannot be used at all. -/
def textFault? (path : Path) : Option StorageFault :=
  if path.text.toList.contains '\x00' then some .nulInPath
  else if path.isEmpty then some .notFound
  else if pathByteLimit ≤ path.text.utf8ByteSize then some .nameTooLong
  else none

/-- Whether a path ends in a slash. -/
def endsInSlash (path : Path) : Bool :=
  path.text.toList.getLast? = some '/'

/-- The names of a path in order. -/
def names (path : Path) : List String :=
  path.segments.filter (· != "")

/-- The steps along a path. A slash at the end asks for a folder, as a last step `.` would. -/
def steps (path : Path) : List String :=
  if endsInSlash path then names path ++ ["."] else names path

/-- Where a path begins. -/
def origin (tree : FileTree) (path : Path) : Location :=
  if path.isAbsolute then [] else tree.here

/--
Takes steps from a folder, following at most `links` links; a link at the end is followed if
`follow` is on. At the location that is reached there may be nothing.
-/
def walk (tree : FileTree) (follow : Bool) :
    (links : Nat) → (steps : List String) → (folder : Location) → Except StorageFault Location
  | _, [], folder => .ok folder
  | links, step :: steps, folder =>
      if step = "." then walk tree follow links steps folder
      else if step = ".." then walk tree follow links steps folder.dropLast
      else if mostNameBytes < step.utf8ByteSize then .error .nameTooLong
      else
        let location := folder ++ [step]
        match tree.find? location with
        | none => if steps.isEmpty then .ok location else .error .notFound
        | some .folder => walk tree follow links steps location
        | some (.file _) => if steps.isEmpty then .ok location else .error .notFolder
        | some (.link target) =>
            if steps.isEmpty && !follow then .ok location
            else
              match links with
              | 0 => .error .linkLoop
              | links + 1 =>
                  let start := if target.isAbsolute then [] else folder
                  walk tree follow links (FileTree.steps target ++ steps) start
termination_by links steps => (links, steps.length)

/-- The location that a path leads to; there may be nothing. -/
def locate (tree : FileTree) (follow : Bool) (path : Path) : Except StorageFault Location :=
  match textFault? path with
  | some fault => .error fault
  | none => tree.walk follow mostLinks (steps path) (tree.origin path)

/-- What a path leads to, and where it is. -/
def lookUp (tree : FileTree) (follow : Bool) (path : Path) :
    Except StorageFault (Location × Node) := do
  let location ← tree.locate follow path
  match tree.find? location with
  | some node => return (location, node)
  | none => throw .notFound

/-- What a path leads to, links followed. -/
def nodeAt? (tree : FileTree) (path : Path) : Option Node :=
  (tree.lookUp true path).toOption.map Prod.snd

/-- Whether a path leads to anything. -/
def exists? (tree : FileTree) (path : Path) : Bool :=
  (tree.nodeAt? path).isSome

/-- Whether a path leads to a file. -/
def isFile (tree : FileTree) (path : Path) : Bool :=
  match tree.nodeAt? path with
  | some (.file _) => true
  | _ => false

/-- Whether a path leads to a folder. -/
def isFolder (tree : FileTree) (path : Path) : Bool :=
  match tree.nodeAt? path with
  | some .folder => true
  | _ => false

/-- The location of what a path that can be used leads to, links followed. -/
def canonical? (tree : FileTree) (path : Path) : Option Location :=
  (tree.lookUp true path).toOption.map Prod.fst

/-- Whether two paths lead to the same thing. -/
def isSame (tree : FileTree) (path other : Path) : Bool :=
  match tree.canonical? path, tree.canonical? other with
  | some location, some place => location = place
  | _, _ => false

/-- How many bytes the path from the root to a location has. -/
def pathBytes : Location → Nat
  | [] => 0
  | name :: location => name.utf8ByteSize + 1 + pathBytes location

/--
The location of what a path leads to if it is found name by name from the root on: not the path has
to be short, but the one from the root to the location.
-/
def resolved? (tree : FileTree) (path : Path) : Option Location :=
  if path.text.toList.contains '\x00' || path.isEmpty then none
  else
    match tree.walk true mostLinks (steps path) (tree.origin path) with
    | .error _ => none
    | .ok location =>
        if (tree.find? location).isSome && pathBytes location < pathByteLimit then some location
        else none

/-- The content of the file that a path leads to. -/
def readText (tree : FileTree) (path : Path) : Except StorageFault String := do
  match ← tree.lookUp true path with
  | (_, .file content) => return content
  | _ => throw .isFolder

/-- The last step of a path. -/
inductive LastStep where
  /-- The path is the root. -/
  | root
  /-- The path ends in `.`. -/
  | current
  /-- The path ends in `..`. -/
  | up
  | name (name : String)

/-- The folder in which the last step of a path is taken, and that step. -/
def locateLast (tree : FileTree) (path : Path) : Except StorageFault (Location × LastStep) :=
  match textFault? path with
  | some fault => .error fault
  | none =>
      let all := names path
      match all.getLast? with
      | none => .ok ([], .root)
      | some last => do
          let folder ← tree.walk true mostLinks (all.dropLast ++ ["."]) (tree.origin path)
          if last = "." then return (folder, .current)
          else if last = ".." then return (folder, .up)
          else if mostNameBytes < last.utf8ByteSize then throw .nameTooLong
          else return (folder, .name last)

end FileTree

end TagOrganizer
