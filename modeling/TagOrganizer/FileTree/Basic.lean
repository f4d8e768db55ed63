import TagOrganizer.FileTree.Fault
import TagOrganizer.Path

/-!
# Trees of files and folders

A tree is a list of entries by location, together with the location that relative paths begin at.
The root is a folder without an entry of its own. Looking up what was put at a location gives it
back, and putting or removing one entry leaves all others alone.

A name is a text here. Where names are any bytes, one that is no text stands under a text that
nothing else is called by, that sorts as the name does and that begins with a dot if the name does.
There is nothing but folders, files and links to paths, each file has one location, and nobody is
refused to read or to write.
-/

namespace TagOrganizer

/-- Where an entry is: the names of the folders from the root on, and its own. -/
abbrev Location := List String

/-- What can be at a location. -/
inductive Node where
  | folder
  | file (content : String)
  /-- A link to what a path leads to. -/
  | link (target : Path)

/-- A tree of files and folders. -/
structure FileTree where
  entries : List (Location × Node)
  /-- The folder that relative paths begin at. -/
  here : Location
  /-- The names that are no texts. -/
  illegible : List String

namespace FileTree

/-- Whether a name is a text. -/
def isText (tree : FileTree) (name : String) : Bool :=
  !tree.illegible.contains name

/-- What is at a location. -/
def find? (tree : FileTree) (location : Location) : Option Node :=
  if location = [] then some .folder else tree.entries.lookup location

/-- Removes the entry at a location. -/
def erase (tree : FileTree) (location : Location) : FileTree :=
  { tree with entries := tree.entries.filter fun entry => entry.1 != location }

/-- Puts a node at a location, in place of what is there. -/
def put (tree : FileTree) (location : Location) (node : Node) : FileTree :=
  { tree with entries := (location, node) :: (tree.erase location).entries }

/-- Removes the entry at a location and all entries below it. -/
def eraseBelow (tree : FileTree) (location : Location) : FileTree :=
  { tree with entries := tree.entries.filter fun entry => !location.isPrefixOf entry.1 }

/-- The names and nodes of the entries of a folder, in the order of their names. -/
def children (tree : FileTree) (folder : Location) : List (String × Node) :=
  let inside := tree.entries.filterMap fun entry =>
    match entry.1.getLast? with
    | some name => if entry.1 = folder ++ [name] then some (name, entry.2) else none
    | none => none
  inside.mergeSort fun left right => left.1 ≤ right.1

/-- Whether a folder has no entries. -/
def isHollow (tree : FileTree) (folder : Location) : Bool :=
  (tree.children folder).isEmpty

/-- Leaving out entries by their locations leaves the others as they are. -/
theorem lookup_filter (entries : List (Location × Node)) (keep : Location → Bool)
    (location : Location) :
    (entries.filter fun entry => keep entry.1).lookup location =
      if keep location then entries.lookup location else none := by
  induction entries with
  | nil => simp
  | cons entry entries ih =>
      obtain ⟨place, node⟩ := entry
      by_cases same : location = place
      · subst same
        cases kept : keep location <;> simp [kept, ih]
      · have different : (location == place) = false := beq_eq_false_iff_ne.2 same
        cases kept : keep place <;> simp [kept, List.lookup_cons, different, ih]

theorem find?_erase_of_ne (tree : FileTree) {location other : Location}
    (different : other ≠ location) : (tree.erase location).find? other = tree.find? other := by
  have kept : (other != location) = true := bne_iff_ne.2 different
  simp only [find?, erase, lookup_filter tree.entries (· != location), kept, if_true]

theorem find?_put_of_ne (tree : FileTree) (node : Node) {location other : Location}
    (different : other ≠ location) : (tree.put location node).find? other = tree.find? other := by
  rw [← tree.find?_erase_of_ne different]
  simp only [find?, put, List.lookup_cons, beq_eq_false_iff_ne.2 different]

@[simp]
theorem find?_put_self (tree : FileTree) (node : Node) {location : Location}
    (inside : location ≠ []) : (tree.put location node).find? location = some node := by
  simp [find?, put, inside]

@[simp]
theorem find?_erase_self (tree : FileTree) {location : Location} (inside : location ≠ []) :
    (tree.erase location).find? location = none := by
  simp only [find?, erase, inside, if_false, lookup_filter tree.entries (· != location),
    bne_self_eq_false, Bool.false_eq_true]

end FileTree

end TagOrganizer
