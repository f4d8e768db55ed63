import TagOrganizer.Text.Fragment

/-!
# Paths

A path is kept as it was written and compared by its components: repeated and trailing slashes and
inner `.` components do not count.
-/

namespace TagOrganizer

/-- A path, as it was written. -/
structure Path where
  text : String
  deriving Inhabited

namespace Path

/-- A component of a path. -/
inductive Component where
  /-- The slash that an absolute path begins with. -/
  | root
  /-- A `.` at the beginning of a relative path. -/
  | here
  /-- A `..` component. -/
  | up
  | name (name : String)
  deriving DecidableEq

/-- The empty path. -/
def empty : Path := ⟨""⟩

/-- Whether nothing is written. -/
def isEmpty (path : Path) : Bool :=
  path.text.isEmpty

/-- Whether a path begins at the root. -/
def isAbsolute (path : Path) : Bool :=
  path.text.toList.head? = some '/'

/-- The pieces of a path between its slashes. -/
def segments (path : Path) : List String :=
  Text.splitAtChar '/' path.text

/-- The component that a segment stands for, other than a `.` at the beginning. -/
def Component.ofSegment? (segment : String) : Option Component :=
  if segment = "" ∨ segment = "." then none
  else if segment = ".." then some .up
  else some (.name segment)

/-- The components of a path. -/
def components (path : Path) : List Component :=
  match path.segments with
  | [] => []
  | first :: rest =>
      let start :=
        if path.isAbsolute then some Component.root
        else if first = "." then some Component.here
        else Component.ofSegment? first
      start.toList ++ rest.filterMap Component.ofSegment?

/-- Whether two paths have the same components. -/
def sameAs (path other : Path) : Bool :=
  path.components = other.components

/-- A path below another one; an absolute path stands for itself. -/
def join (path below : Path) : Path :=
  if below.isAbsolute ∨ path.isEmpty then below
  else if path.text.toList.getLast? = some '/' then ⟨path.text ++ below.text⟩
  else ⟨path.text ++ "/" ++ below.text⟩

/-- Whether the components of a path begin with those of `front`. -/
def startsWith (path front : Path) : Bool :=
  front.components.isPrefixOf path.components

/-- The name of what a path leads to, if its last component is a name. -/
def fileName? (path : Path) : Option String :=
  match path.components.getLast? with
  | some (.name name) => some name
  | _ => none

/-- The part of a file name after its last dot, unless the dot is the first character. -/
def extension? (path : Path) : Option String := do
  let name ← path.fileName?
  let back := name.toList.reverse
  let after := back.takeWhile (· != '.')
  let before := back.drop (after.length + 1)
  if after.length < back.length ∧ !before.isEmpty then some (String.ofList after.reverse) else none

/-- Drops segments at the end, up to one that stands for a component. -/
def dropIdle (relative : Bool) : List String → List String
  | [] => []
  | segment :: earlier =>
      if (Component.ofSegment? segment).isSome then segment :: earlier
      else if relative ∧ earlier.isEmpty ∧ segment = "." then [segment]
      else dropIdle relative earlier

/-- The folder that a path lies in, as it is written in the path. -/
def parent? (path : Path) : Option Path :=
  let back := dropIdle (!path.isAbsolute) path.segments.reverse
  match back with
  | [] => none
  | _ :: earlier =>
      let kept := dropIdle (!path.isAbsolute) earlier
      if kept.isEmpty then some ⟨if path.isAbsolute then "/" else ""⟩
      else some ⟨"/".intercalate kept.reverse⟩

end Path

end TagOrganizer
