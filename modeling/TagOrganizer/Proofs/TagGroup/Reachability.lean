import Mathlib
import TagOrganizer.Proofs.Act
import TagOrganizer.Proofs.Selection.Meaning
import TagOrganizer.TagGroup.Document

/-!
# Membership is reachability

A tag belongs to a group iff a group that is reached from it along references has the tag or a
pattern for it. The search follows a reference only to groups that are not on its path; that loses
nothing, since a chain of references that comes back to a group can be entered there at once
(`memberAlong_of_chain`).
-/

namespace TagOrganizer

open Relation (ReflTransGen)

/-- Whether a tag is a literal member of a group or matches one of its patterns. -/
def TagGroup.Admits (group : TagGroup) (tag : String) : Prop :=
  Member.tag tag ∈ group.members ∨
    ∃ pattern, Member.pattern pattern ∈ group.members ∧ pattern.isMatch tag = true

namespace GroupTable

/-- Whether a group of a table refers to another group of it. -/
def RefersTo (table : GroupTable) (group other : TagGroup) : Prop :=
  group ∈ table.groups ∧ other ∈ table.groups ∧ .reference other.name ∈ group.members

/-- Whether a group that admits a tag is reached from the group with a name. -/
def Belongs (table : GroupTable) (tag name : String) : Prop :=
  ∃ first ∈ table.groups, first.name = name ∧
    ∃ last, ReflTransGen table.RefersTo first last ∧ last.Admits tag

/-- Tables that come about by inserting groups and by loading documents, also those that fail. -/
inductive Loaded : GroupTable → Prop where
  | empty : Loaded .empty
  | insert {table : GroupTable} (loaded : Loaded table) (name : String)
      (members : List TagGroup.Member) : Loaded ((GroupTable.insert name members).ends table).2
  | value {table : GroupTable} (loaded : Loaded table) (document : Json) (append : Bool) :
      Loaded ((loadValue document append).ends table).2
  | text {table : GroupTable} (loaded : Loaded table) (document : String) (append : Bool) :
      Loaded ((loadText document append).ends table).2
  | file {table : GroupTable} (loaded : Loaded table) (tree : FileTree) (path : Path)
      (append : Bool) : Loaded ((loadFile tree path append).ends table).2

/-! ### Groups of a table have different names -/

/-- Whether no name is the name of two groups. -/
def Distinct (table : GroupTable) : Prop :=
  (table.groups.map TagGroup.name).Nodup

variable {table : GroupTable} {group : TagGroup} {name tag : String}

@[simp]
theorem name_absorb (group : TagGroup) (members : List TagGroup.Member) :
    (group.absorb members).name = group.name := by
  induction members generalizing group with
  | nil => rfl
  | cons member members ih =>
      rw [TagGroup.absorb, List.foldl_cons, ← TagGroup.absorb, ih, TagGroup.add]
      split <;> rfl

theorem Distinct.merge (distinct : table.Distinct) (name : String)
    (members : List TagGroup.Member) : (table.merge name members).Distinct := by
  unfold GroupTable.merge
  split
  · have names : (table.groups.map fun group =>
        if group.name = name then group.absorb members else group).map TagGroup.name =
          table.groups.map TagGroup.name := by
      rw [List.map_map]
      refine List.map_congr_left fun group _ => ?_
      rw [Function.comp]
      split <;> simp
    rw [Distinct, names]
    exact distinct
  · rename_i unknown
    have fresh : name ∉ table.groups.map TagGroup.name := by
      simpa [contains, find?] using unknown
    have new : ((TagGroup.named name).absorb members).name = name := name_absorb _ _
    rw [Distinct, List.map_append, List.map_cons, List.map_nil, new]
    exact List.Nodup.append distinct (List.nodup_singleton name) (by simpa using fresh)

/-! ### What inserting and loading keep -/

section Kept

variable {property : GroupTable → Prop}
  (merged : ∀ table name members, property table → property (table.merge name members))

include merged

theorem keeps_insert (name : String) (members : List TagGroup.Member) :
    Act.Keeps property (GroupTable.insert name members) := by
  have kept : Act.Keeps property (modify fun table => table.merge name members) :=
    Act.keeps_modify fun table => merged table name members
  unfold GroupTable.insert
  refine Act.keeps_bind Act.keeps_get ?_
  intro table
  simp only
  split
  · exact Act.keeps_bind (Act.keeps_tell _) fun _ => kept
  · exact kept

variable (empty : property .empty)

include empty

theorem keeps_loadValue (document : Json) (append : Bool) :
    Act.Keeps property (loadValue document append) := by
  unfold loadValue
  refine Act.keeps_bind (Act.keeps_evaluation _) fun definitions => ?_
  extract_lets fill
  have filled : Act.Keeps property (fill ()) := by
    refine Act.keeps_bind (Act.keeps_forIn fun definition _ _ => ?_) fun _ => ?_
    · exact Act.keeps_bind (keeps_insert merged _ _) fun _ => Act.keeps_pure _
    · exact Act.keeps_bind Act.keeps_get fun _ => Act.keeps_tell _
  split
  · exact Act.keeps_bind (Act.keeps_set empty) fun _ => filled
  · exact filled

theorem keeps_loadText (document : String) (append : Bool) :
    Act.Keeps property (loadText document append) := by
  unfold loadText
  exact Act.keeps_bind (Act.keeps_except _) fun value =>
    keeps_loadValue merged empty value append

theorem keeps_loadFile (tree : FileTree) (path : Path) (append : Bool) :
    Act.Keeps property (loadFile tree path append) := by
  have loaded : Act.Keeps property (loadContent tree path append) := by
    unfold loadContent
    refine Act.keeps_bind (Act.keeps_except _) ?_
    intro document
    exact Act.keeps_bind (keeps_loadText merged empty _ _) fun _ => Act.keeps_tell _
  unfold loadFile
  exact Act.keeps_bind (Act.keeps_logged _) fun _ => loaded

/-- A property of the empty table that merging keeps is one of all tables that come about. -/
theorem Loaded.holds (loaded : Loaded table) : property table := by
  induction loaded with
  | empty => exact empty
  | insert _ name members ih => exact keeps_insert merged name members _ ih
  | value _ document append ih => exact keeps_loadValue merged empty document append _ ih
  | text _ document append ih => exact keeps_loadText merged empty document append _ ih
  | file _ tree path append ih => exact keeps_loadFile merged empty tree path append _ ih

end Kept

theorem Loaded.distinct (loaded : Loaded table) : table.Distinct :=
  loaded.holds (fun _ name members distinct => distinct.merge name members) List.nodup_nil

theorem Distinct.eq_of_name (distinct : table.Distinct) {other : TagGroup}
    (present : group ∈ table.groups) (among : other ∈ table.groups)
    (same : group.name = other.name) : group = other :=
  List.inj_on_of_nodup_map distinct present among same

theorem Distinct.find?_eq_some_iff (distinct : table.Distinct) :
    table.find? name = some group ↔ group ∈ table.groups ∧ group.name = name := by
  constructor
  · intro found
    exact ⟨mem_of_find? found, name_of_find? found⟩
  · rintro ⟨present, rfl⟩
    cases found : table.find? group.name with
    | none =>
        have missing := List.find?_eq_none.1 found group present
        simp at missing
    | some other =>
        rw [distinct.eq_of_name (mem_of_find? found) present (name_of_find? found)]

/-! ### The search follows chains of references -/

theorem value_memberAlong (table : GroupTable) (tag : String) (path : List String)
    (name : String) :
    (table.memberAlong tag path name).value = true ↔
      ∃ group, table.find? name = some group ∧ name ∉ path ∧
        (group.Admits tag ∨ ∃ other, .reference other ∈ group.members ∧
          (table.memberAlong tag (name :: path) other).value = true) := by
  rw [memberAlong]
  split
  · rename_i missing
    simp [missing]
  · rename_i group found
    split
    · rename_i visited
      simp [visited]
    · rename_i fresh
      rw [Logged.value_anyM, List.any_eq_true]
      simp only [found, Option.some.injEq, exists_eq_left', fresh, not_false_eq_true, true_and]
      constructor
      · rintro ⟨member, present, holds⟩
        cases member with
        | tag literal =>
            have same : literal = tag := by simpa using holds
            exact .inl (.inl (same ▸ present))
        | pattern pattern => exact .inl (.inr ⟨pattern, present, holds⟩)
        | reference other => exact .inr ⟨other, present, holds⟩
      · rintro ((literal | ⟨pattern, present, matched⟩) | ⟨other, present, holds⟩)
        · exact ⟨.tag tag, literal, by simp⟩
        · exact ⟨.pattern pattern, present, matched⟩
        · exact ⟨.reference other, present, holds⟩

theorem belongs_of_memberAlong {path : List String}
    (holds : (table.memberAlong tag path name).value = true) : table.Belongs tag name := by
  -- Each step puts a group on the path, so that fewer groups are left to be visited.
  induction remaining : (table.unvisited path).length using Nat.strong_induction_on
    generalizing path name with
  | h count ih =>
      rcases (value_memberAlong table tag path name).1 holds with ⟨group, found, fresh, reason⟩
      have present := mem_of_find? found
      rcases reason with admits | ⟨other, refers, further⟩
      · exact ⟨group, present, name_of_find? found, group, .refl, admits⟩
      · have fewer := length_unvisited_lt found fresh
        rw [remaining] at fewer
        rcases ih _ fewer further rfl with ⟨next, among, rfl, last, reached, admits⟩
        exact ⟨group, present, name_of_find? found, last, reached.head ⟨present, among, refers⟩,
          admits⟩

theorem mem_groups_of_chain {first : TagGroup} {rest : List TagGroup}
    (present : first ∈ table.groups) (chain : (first :: rest).IsChain table.RefersTo)
    (among : group ∈ first :: rest) : group ∈ table.groups := by
  rcases List.mem_cons.1 among with rfl | later
  · exact present
  · exact chain.cons_induction (· ∈ table.groups) rest (fun _ _ refers _ => refers.2.1) present
      group later

/-- A chain of references that avoids the path of the search is followed to its end. -/
theorem memberAlong_of_chain (distinct : table.Distinct) {first : TagGroup}
    {rest : List TagGroup} {path : List String} (present : first ∈ table.groups)
    (chain : (first :: rest).IsChain table.RefersTo)
    (admits : ((first :: rest).getLast (List.cons_ne_nil _ _)).Admits tag)
    (avoids : ∀ group ∈ first :: rest, group.name ∉ path) :
    (table.memberAlong tag path first.name).value = true := by
  induction count : rest.length using Nat.strong_induction_on generalizing first rest path with
  | h number ih =>
      have found := distinct.find?_eq_some_iff.2 ⟨present, rfl⟩
      have fresh := avoids first (by simp)
      by_cases returns : first ∈ rest
      · -- The chain comes back to its first group: what lies in between is left out.
        rcases List.append_of_mem returns with ⟨front, back, rfl⟩
        have shorter : back.length < number := by
          rw [← count]
          simp
          omega
        refine ih _ shorter present ?_ ?_ ?_ rfl
        · exact (List.isChain_append.1 (List.cons_append ▸ chain)).2.1
        · simpa using admits
        · intro group among
          exact avoids group (by simp_all)
      · rw [value_memberAlong]
        refine ⟨first, found, fresh, ?_⟩
        cases rest with
        | nil => exact .inl admits
        | cons next rest =>
            rw [List.isChain_cons_cons] at chain
            refine .inr ⟨next.name, chain.1.2.2, ?_⟩
            refine ih rest.length (by simp [← count]) chain.1.2.1 chain.2 admits ?_ rfl
            intro group among
            rw [List.mem_cons, not_or]
            refine ⟨?_, avoids group (List.mem_cons_of_mem _ among)⟩
            intro same
            have loaded := mem_groups_of_chain chain.1.2.1 chain.2 among
            exact returns (distinct.eq_of_name loaded present same ▸ among)

theorem Distinct.isMember_iff (distinct : table.Distinct) (tag name : String) :
    (table.isMember tag name).value = true ↔ table.Belongs tag name := by
  constructor
  · exact belongs_of_memberAlong
  · rintro ⟨first, present, rfl, last, reached, admits⟩
    rcases List.exists_isChain_cons_of_relationReflTransGen reached with ⟨rest, chain, rfl⟩
    exact memberAlong_of_chain distinct present chain admits (by simp)

/-! ### Representatives -/

/-- Whether a tag, if there is one, is the first of some tags with a property. -/
def FirstWith (property : String → Prop) (tags : List String) : Option String → Prop
  | some tag => ∃ front back, tags = front ++ tag :: back ∧ property tag ∧
      ∀ other ∈ front, ¬property other
  | none => ∀ tag ∈ tags, ¬property tag

theorem firstWith_find? {check : String → Bool} {property : String → Prop}
    (checks : ∀ tag, check tag = true ↔ property tag) (tags : List String) :
    FirstWith property tags (tags.find? check) := by
  cases found : tags.find? check with
  | none =>
      intro tag present holds
      exact List.find?_eq_none.1 found tag present ((checks tag).2 holds)
  | some tag =>
      rcases List.find?_eq_some_iff_append.1 found with ⟨holds, front, back, split, others⟩
      refine ⟨front, back, split, (checks tag).1 holds, ?_⟩
      intro other before holds
      have refused := others other before
      rw [(checks other).2 holds] at refused
      cases refused

/--
Membership is reachability, in every table that inserting and loading can bring about, and the
representative of a group is the first tag that belongs to it, whether the table is asked for it or
its tags are asked one after the other.
-/
theorem isMember_and_representative_iff_belongs (loaded : Loaded table) :
    (∀ tag name, (table.isMember tag name).value = true ↔ table.Belongs tag name) ∧
      ∀ tags name,
        FirstWith (table.Belongs · name) tags (table.resolver.representative tags name).value ∧
        FirstWith (table.Belongs · name) tags
          ((Resolver.ofMembership table.isMember).representative tags name).value := by
  have members (tag name : String) := loaded.distinct.isMember_iff tag name
  refine ⟨members, ?_⟩
  intro tags name
  rw [table.picksFirst_resolver tags name, Resolver.picksFirst_ofMembership _ tags name]
  exact ⟨firstWith_find? (members · name) tags, firstWith_find? (members · name) tags⟩

/-- Two groups that refer to each other, one of them also to itself and to an unknown group. -/
def circular : GroupTable :=
  ((insert "Ales" [.reference "Styles", .reference "Wines", .tag "ipa"]).ends
    ((insert "Styles" [.reference "Styles", .reference "Ales", .tag "stout"]).ends .empty).2).2

/-- The search ends in spite of the cycles, with a member that is reached and without the others. -/
theorem isMember_and_representative_circular :
    Loaded circular ∧
      (circular.isMember "ipa" "Styles").value = true ∧ circular.Belongs "ipa" "Styles" ∧
      (circular.isMember "merlot" "Ales").value = false ∧ ¬circular.Belongs "merlot" "Ales" ∧
      (circular.resolver.representative ["merlot", "stout", "ipa"] "Ales").value = some "stout" ∧
      FirstWith (circular.Belongs · "Ales") ["merlot", "stout", "ipa"] (some "stout") := by
  have loaded : Loaded circular := .insert (.insert .empty _ _) _ _
  have inside : (circular.isMember "ipa" "Styles").value = true := by cbv
  have outside : (circular.isMember "merlot" "Ales").value = false := by cbv
  have picked : (circular.resolver.representative ["merlot", "stout", "ipa"] "Ales").value =
      some "stout" := by
    cbv
  rcases isMember_and_representative_iff_belongs loaded with ⟨members, representatives⟩
  refine ⟨loaded, inside, (members _ _).1 inside, outside, ?_, picked, ?_⟩
  · rw [← members, outside]
    exact Bool.false_ne_true
  · rw [← picked]
    exact (representatives _ _).1

end GroupTable

end TagOrganizer
