import TagOrganizer.Logged
import TagOrganizer.Pattern

/-!
# Groups of tags

A group, also called a category, is a named set of tags. Its members are literal tags, patterns that
match whole tags, and references to other groups. A table holds groups of different names;
definitions of one group are merged, and no member is kept twice.
-/

namespace TagOrganizer

namespace TagGroup

/-- A member of a group. -/
inductive Member where
  | tag (name : String)
  | pattern (pattern : Pattern)
  /-- All members of another group. -/
  | reference (group : String)

namespace Member

/-- What references to a group begin with. -/
def groupMark : List Char := ['/', 'G', '|']

/-- What references to a category begin with. -/
def categoryMark : List Char := ['/', 'C', '|']

/-- The member that an entry of a group document stands for. -/
def ofEntry (entry : String) : Member :=
  match Text.stripFront? groupMark entry.toList, Text.stripFront? categoryMark entry.toList with
  | some name, _ => reference (String.ofList name)
  | none, some name => reference (String.ofList name)
  | none, none => tag entry

/-- The member with a pattern for whole tags. -/
def ofPattern (text : String) : Except Error Member :=
  (Pattern.whole text).map pattern

/-- Whether two members are written alike. -/
def sameAs : Member → Member → Bool
  | tag name, tag other => name == other
  | pattern left, pattern right => left.source == right.source
  | reference group, reference other => group == other
  | _, _ => false

end Member

end TagGroup

/-- A group of tags. -/
structure TagGroup where
  name : String
  members : List TagGroup.Member

namespace TagGroup

/-- A group without members. -/
def named (name : String) : TagGroup :=
  ⟨name, []⟩

/-- Adds a member, unless the group has it. -/
def add (group : TagGroup) (member : Member) : TagGroup :=
  if group.members.any fun present => present.sameAs member then group
  else { group with members := group.members ++ [member] }

/-- Adds members, each one unless the group has it. -/
def absorb (group : TagGroup) (members : List Member) : TagGroup :=
  members.foldl add group

end TagGroup

/-- Groups of different names. -/
structure GroupTable where
  groups : List TagGroup

namespace GroupTable

/-- The table without groups. -/
def empty : GroupTable := ⟨[]⟩

/-- How many groups there are. -/
def size (table : GroupTable) : Nat :=
  table.groups.length

/-- The group with a name. -/
def find? (table : GroupTable) (name : String) : Option TagGroup :=
  table.groups.find? fun group => group.name == name

/-- Whether there is a group with a name. -/
def contains (table : GroupTable) (name : String) : Bool :=
  (table.find? name).isSome

/-- Adds members to the group with a name, which is made if there is none. -/
def merge (table : GroupTable) (name : String) (members : List TagGroup.Member) : GroupTable :=
  if table.contains name then
    ⟨table.groups.map fun group => if group.name = name then group.absorb members else group⟩
  else ⟨table.groups ++ [(TagGroup.named name).absorb members]⟩

/-- As `merge`, telling when there is such a group already. -/
def insert (name : String) (members : List TagGroup.Member) : Act GroupTable Unit := do
  if (← get).contains name then tell (.groupRepeated name)
  modify fun table => table.merge name members

end GroupTable

end TagOrganizer
