import TagOrganizer.TagGroup.Basic

/-!
# Membership

A tag belongs to a group if it is a literal member of it, matches a pattern of it, or belongs to a
group that it refers to. References are followed at most once along a path, so that cycles of
references end. The representative of a group among the tags of a file is the first one that belongs
to the group.
-/

namespace TagOrganizer

namespace GroupTable

/-- The groups that are not on a path of references. -/
def unvisited (table : GroupTable) (path : List String) : List TagGroup :=
  table.groups.filter fun group => !path.contains group.name

theorem name_of_find? {table : GroupTable} {name : String} {group : TagGroup}
    (found : table.find? name = some group) : group.name = name := by
  have holds := List.find?_some found
  simpa using holds

theorem mem_of_find? {table : GroupTable} {name : String} {group : TagGroup}
    (found : table.find? name = some group) : group ∈ table.groups :=
  List.mem_of_find?_eq_some found

/-- A path that goes on to a group of the table leaves fewer groups to visit. -/
theorem length_unvisited_lt {table : GroupTable} {name : String} {group : TagGroup}
    {path : List String} (found : table.find? name = some group) (fresh : name ∉ path) :
    (table.unvisited (name :: path)).length < (table.unvisited path).length := by
  have same := name_of_find? found
  have narrower :
      table.unvisited (name :: path) =
        (table.unvisited path).filter fun group => group.name != name := by
    simp only [unvisited, List.filter_filter]
    congr 1
    funext candidate
    by_cases equal : candidate.name = name <;> simp [equal]
  rw [narrower, List.length_filter_lt_length_iff_exists]
  refine ⟨group, ?_, by simp [same]⟩
  simp only [unvisited, List.mem_filter]
  exact ⟨mem_of_find? found, by simp [same, fresh]⟩

/-- Whether a tag belongs to a group that has been reached along a path of references. -/
def memberAlong (table : GroupTable) (tag : String) (path : List String) (name : String) :
    Logged Bool :=
  match _found : table.find? name with
  | none => do
      tell (.groupReferenceUnknown name)
      return false
  | some group =>
      if _visited : name ∈ path then return false
      else
        group.members.anyM fun member =>
          match member with
          | .tag literal => return literal == tag
          | .pattern pattern => return pattern.isMatch tag
          | .reference other => memberAlong table tag (name :: path) other
termination_by (table.unvisited path).length
decreasing_by exact length_unvisited_lt _found _visited

/-- Whether a tag belongs to a group. -/
def isMember (table : GroupTable) (tag group : String) : Logged Bool :=
  table.memberAlong tag [] group

end GroupTable

/-- What the rules ask about groups. -/
structure Resolver where
  /-- Whether a tag belongs to a group. -/
  isMember : (tag group : String) → Logged Bool
  /-- The first of some tags that belongs to a group. -/
  representative : (tags : List String) → (group : String) → Logged (Option String)

namespace Resolver

/-- The first of some tags that belongs to a group. -/
def firstMember (isMember : (tag group : String) → Logged Bool) (tags : List String)
    (group : String) : Logged (Option String) :=
  tags.findM? fun tag => isMember tag group

/-- Asks for membership of one tag after the other. -/
def ofMembership (isMember : (tag group : String) → Logged Bool) : Resolver :=
  ⟨isMember, firstMember isMember⟩

end Resolver

/-- The answers of a table, which tells when the group in question is unknown. -/
def GroupTable.resolver (table : GroupTable) : Resolver where
  isMember := table.isMember
  representative := fun tags group =>
    if table.contains group then Resolver.firstMember table.isMember tags group
    else do
      tell (.groupUnknown group)
      return none

end TagOrganizer
