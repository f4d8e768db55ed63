import Mathlib
import TagOrganizer.Proofs.Loading
import TagOrganizer.Proofs.TagGroup.Reachability

/-!
# Merging definitions of groups

Groups may be defined piece by piece. What a tag belongs to depends only on which members have been
given to which group, in whatever order and however often (`Belongs.mono`), since a table that
results from definitions has a member for each one that was given and no others
(`lists_or_defines_of_mergeAll`, `exists_lists_mergeAll`). Of several patterns with one text the
first is kept; they match the same tags if they have been read from texts (`consistent_of_read`).
-/

namespace TagOrganizer

open Relation (ReflTransGen)

/-! ### Members of one group -/

namespace TagGroup

/-- Whether a member is what an entry or the text of a pattern is read as. -/
def Member.IsRead (member : Member) : Prop :=
  (∃ entry, ofEntry entry = member) ∨ ∃ text, ofPattern text = .ok member

theorem Member.parse?_of_isRead {pattern : Pattern} (read : (Member.pattern pattern).IsRead) :
    Regex.parse? pattern.source = some pattern.regex := by
  rcases read with ⟨entry, written⟩ | ⟨text, written⟩
  · unfold ofEntry at written
    split at written <;> cases written
  · rcases Except.map_eq_ok_iff.1 written with ⟨_, whole, same⟩
    cases same
    unfold Pattern.whole Pattern.ofSource at whole
    split at whole
    · rename_i parsed
      cases whole
      exact parsed
    · cases whole

/-- Members that have the same effect: equal ones, and patterns that match the same tags. -/
inductive Member.Alike : Member → Member → Prop where
  | same (member : Member) : Alike member member
  | matching {pattern other : Pattern} (agree : ∀ tag, pattern.isMatch tag = other.isMatch tag) :
      Alike (.pattern pattern) (.pattern other)

/-- Whether no two members of a group are written alike. -/
def Apart (group : TagGroup) : Prop :=
  group.members.Pairwise fun earlier later => earlier.sameAs later = false

variable {group : TagGroup} {member : Member} {members : List Member}

theorem mem_add_iff {other : Member} :
    other ∈ (group.add member).members ↔
      other ∈ group.members ∨
        (other = member ∧ ∀ present ∈ group.members, present.sameAs member = false) := by
  unfold add
  split
  · rename_i known
    rcases List.any_eq_true.1 known with ⟨present, among, same⟩
    constructor
    · exact .inl
    · rintro (old | ⟨-, fresh⟩)
      · exact old
      · rw [fresh present among] at same
        cases same
  · rename_i fresh
    simp only [List.any_eq_true, not_exists, not_and, Bool.not_eq_true] at fresh
    simp only [List.mem_append, List.mem_singleton]
    exact or_congr_right ⟨fun same => ⟨same, fresh⟩, And.left⟩

theorem mem_absorb_of_mem {other : Member} (present : other ∈ group.members) :
    other ∈ (group.absorb members).members := by
  induction members generalizing group with
  | nil => exact present
  | cons member members ih => exact ih (mem_add_iff.2 (.inl present))

theorem mem_or_mem_of_mem_absorb {other : Member}
    (present : other ∈ (group.absorb members).members) :
    other ∈ group.members ∨ other ∈ members := by
  induction members generalizing group with
  | nil => exact .inl present
  | cons member members ih =>
      rcases ih present with before | given
      · rcases mem_add_iff.1 before with old | ⟨rfl, -⟩
        · exact .inl old
        · exact .inr (by simp)
      · exact .inr (by simp [given])

theorem Member.sameAs_self (member : Member) : member.sameAs member = true := by
  cases member <;> simp [sameAs]

theorem exists_mem_add (group : TagGroup) (member : Member) :
    ∃ present ∈ (group.add member).members, present.sameAs member = true := by
  by_cases fresh : ∀ present ∈ group.members, present.sameAs member = false
  · exact ⟨member, mem_add_iff.2 (.inr ⟨rfl, fresh⟩), member.sameAs_self⟩
  · push Not at fresh
    rcases fresh with ⟨present, among, same⟩
    exact ⟨present, mem_add_iff.2 (.inl among), by simpa using same⟩

/-- Each member that is absorbed is there afterwards, perhaps as one that is written alike. -/
theorem exists_mem_absorb (group : TagGroup) (given : member ∈ members) :
    ∃ present ∈ (group.absorb members).members, present.sameAs member = true := by
  induction members generalizing group with
  | nil => cases given
  | cons first members ih =>
      rcases List.mem_cons.1 given with rfl | later
      · rcases exists_mem_add group member with ⟨present, among, same⟩
        have kept : present ∈ ((group.add member).absorb members).members :=
          mem_absorb_of_mem among
        exact ⟨present, kept, same⟩
      · exact ih (group.add first) later

theorem Apart.add (apart : group.Apart) (member : Member) : (group.add member).Apart := by
  unfold TagGroup.add
  split
  · exact apart
  · rename_i fresh
    simp only [List.any_eq_true, not_exists, not_and, Bool.not_eq_true] at fresh
    refine List.pairwise_append.2 ⟨apart, List.pairwise_singleton _ _, ?_⟩
    simpa using fresh

theorem Apart.absorb (apart : group.Apart) (members : List Member) :
    (group.absorb members).Apart := by
  induction members generalizing group with
  | nil => exact apart
  | cons member members ih => exact ih (apart.add member)

end TagGroup

open TagGroup (Member)

namespace GroupTable

variable {table other : GroupTable} {tag name : String} {member : Member} {members : List Member}

/-! ### Belonging, by names -/

/-- Whether a group with a name has a member. -/
def Lists (table : GroupTable) (name : String) (member : Member) : Prop :=
  ∃ group ∈ table.groups, group.name = name ∧ member ∈ group.members

/-- Whether a group with a name has a tag or a pattern for it. -/
def Offers (table : GroupTable) (tag name : String) : Prop :=
  table.Lists name (.tag tag) ∨
    ∃ pattern, table.Lists name (.pattern pattern) ∧ pattern.isMatch tag = true

theorem offers_of_admits {group : TagGroup} (present : group ∈ table.groups)
    (admits : group.Admits tag) : table.Offers tag group.name := by
  rcases admits with literal | ⟨pattern, among, matched⟩
  · exact .inl ⟨group, present, rfl, literal⟩
  · exact .inr ⟨pattern, ⟨group, present, rfl, among⟩, matched⟩

theorem belongs_of_offers (offers : table.Offers tag name) : table.Belongs tag name := by
  rcases offers with ⟨group, present, named, literal⟩ | ⟨pattern, listed, matched⟩
  · exact ⟨group, present, named, group, .refl, .inl literal⟩
  · rcases listed with ⟨group, present, named, among⟩
    exact ⟨group, present, named, group, .refl, .inr ⟨pattern, among, matched⟩⟩

/-- What a tag belongs to can be told from the members that each name has. -/
theorem belongs_iff :
    table.Belongs tag name ↔
      ∃ last, ReflTransGen (fun group other => table.Lists group (.reference other)) name last ∧
        table.Offers tag last := by
  constructor
  · rintro ⟨first, present, rfl, last, reached, admits⟩
    refine ⟨last.name, reached.lift TagGroup.name ?_, offers_of_admits ?_ admits⟩
    · rintro group other ⟨among, -, refers⟩
      exact ⟨group, among, rfl, refers⟩
    · rcases reached.cases_tail with rfl | ⟨group, -, refers⟩
      · exact present
      · exact refers.2.1
  · rintro ⟨last, reached, offers⟩
    induction reached using ReflTransGen.head_induction_on with
    | refl => exact belongs_of_offers offers
    | head listed _ ih =>
        rcases ih with ⟨next, present, named, last, reached, admits⟩
        rcases listed with ⟨group, among, rfl, refers⟩
        have link : table.RefersTo group next := ⟨among, present, named ▸ refers⟩
        exact ⟨group, among, rfl, last, reached.head link, admits⟩

/-- A table with a member of the same effect for each member of another has all its memberships. -/
theorem Belongs.mono (belongs : table.Belongs tag name)
    (kept : ∀ name member, table.Lists name member →
      ∃ present, other.Lists name present ∧ member.Alike present) :
    other.Belongs tag name := by
  rw [belongs_iff] at belongs ⊢
  rcases belongs with ⟨last, reached, offers⟩
  refine ⟨last, ReflTransGen.mono ?_ _ _ reached, ?_⟩
  · intro group next listed
    rcases kept group _ listed with ⟨present, among, alike⟩
    cases alike
    exact among
  · rcases offers with listed | ⟨pattern, listed, matched⟩
    · rcases kept last _ listed with ⟨present, among, alike⟩
      cases alike
      exact .inl among
    · rcases kept last _ listed with ⟨present, among, alike⟩
      cases alike with
      | same => exact .inr ⟨pattern, among, matched⟩
      | matching agree => exact .inr ⟨_, among, agree tag ▸ matched⟩

/-! ### Members of the groups of a table -/

theorem Lists.merge (listed : table.Lists name member) (group : String) (members : List Member) :
    (table.merge group members).Lists name member := by
  rcases listed with ⟨present, among, rfl, given⟩
  unfold GroupTable.merge
  split
  · refine ⟨_, List.mem_map_of_mem among, ?_, ?_⟩
    · split <;> simp
    · split
      · exact TagGroup.mem_absorb_of_mem given
      · exact given
  · exact ⟨present, List.mem_append_left _ among, rfl, given⟩

theorem lists_or_mem_of_merge {group : String}
    (listed : (table.merge group members).Lists name member) :
    table.Lists name member ∨ (name = group ∧ member ∈ members) := by
  rcases listed with ⟨present, among, rfl, has⟩
  unfold GroupTable.merge at among
  split at among
  · rcases List.mem_map.1 among with ⟨before, known, rfl⟩
    split at has
    · rename_i same
      rcases TagGroup.mem_or_mem_of_mem_absorb has with old | new
      · exact .inl ⟨before, known, by simp [same], old⟩
      · exact .inr ⟨by simp [same], new⟩
    · rename_i different
      exact .inl ⟨before, known, by simp [different], has⟩
  · rcases List.mem_append.1 among with known | new
    · exact .inl ⟨present, known, rfl, has⟩
    · rw [List.mem_singleton] at new
      subst new
      rcases TagGroup.mem_or_mem_of_mem_absorb has with old | given
      · cases old
      · exact .inr ⟨by simp [TagGroup.named], given⟩

theorem exists_lists_merge (table : GroupTable) (name : String) (given : member ∈ members) :
    ∃ present, (table.merge name members).Lists name present ∧ present.sameAs member = true := by
  unfold GroupTable.merge
  split
  · rename_i known
    rcases Option.isSome_iff_exists.1 known with ⟨group, found⟩
    have named := name_of_find? found
    rcases TagGroup.exists_mem_absorb group given with ⟨present, among, same⟩
    refine ⟨present, ⟨group.absorb members, ?_, by simp [named], among⟩, same⟩
    exact List.mem_map.2 ⟨group, mem_of_find? found, by simp [named]⟩
  · rcases TagGroup.exists_mem_absorb (.named name) given with ⟨present, among, same⟩
    exact ⟨present, ⟨_, List.mem_append_right _ (by simp), by simp [TagGroup.named], among⟩, same⟩

theorem apart_merge (apart : ∀ group ∈ table.groups, group.Apart) (name : String)
    (members : List Member) : ∀ group ∈ (table.merge name members).groups, group.Apart := by
  intro group present
  unfold merge at present
  split at present
  · rcases List.mem_map.1 present with ⟨before, known, rfl⟩
    split
    · exact (apart before known).absorb members
    · exact apart before known
  · rcases List.mem_append.1 present with known | new
    · exact apart group known
    · rw [List.mem_singleton] at new
      subst new
      have apart : (TagGroup.named name).Apart := List.Pairwise.nil
      exact apart.absorb members

/-! ### Definitions one after the other -/

/-- Whether some definitions give a member to the group with a name. -/
def Defines (definitions : List (String × List Member)) (name : String) (member : Member) : Prop :=
  ∃ members, (name, members) ∈ definitions ∧ member ∈ members

/-- Whether patterns with one text that are given to a group match the same tags. -/
def Consistent (definitions : List (String × List Member)) : Prop :=
  ∀ name pattern other, Defines definitions name (.pattern pattern) →
    Defines definitions name (.pattern other) → pattern.source = other.source →
    ∀ tag, pattern.isMatch tag = other.isMatch tag

variable {definitions others : List (String × List Member)}

theorem Lists.mergeAll (listed : table.Lists name member)
    (definitions : List (String × List Member)) :
    (table.mergeAll definitions).Lists name member := by
  induction definitions generalizing table with
  | nil => exact listed
  | cons definition definitions ih => exact ih (listed.merge _ _)

theorem lists_or_defines_of_mergeAll (listed : (table.mergeAll definitions).Lists name member) :
    table.Lists name member ∨ Defines definitions name member := by
  induction definitions generalizing table with
  | nil => exact .inl listed
  | cons definition definitions ih =>
      rcases ih listed with before | ⟨members, later, given⟩
      · rcases lists_or_mem_of_merge before with old | ⟨rfl, given⟩
        · exact .inl old
        · exact .inr ⟨definition.2, by simp, given⟩
      · exact .inr ⟨members, by simp [later], given⟩

theorem exists_lists_mergeAll (table : GroupTable) (defined : Defines definitions name member) :
    ∃ present, (table.mergeAll definitions).Lists name present ∧
      present.sameAs member = true := by
  rcases defined with ⟨members, among, given⟩
  induction definitions generalizing table with
  | nil => cases among
  | cons definition definitions ih =>
      rcases List.mem_cons.1 among with rfl | later
      · rcases exists_lists_merge table name given with ⟨present, listed, same⟩
        exact ⟨present, listed.mergeAll definitions, same⟩
      · exact ih _ later

theorem Consistent.alike (consistent : Consistent definitions) {present : Member}
    (defined : Defines definitions name member) (kept : Defines definitions name present)
    (same : present.sameAs member = true) : member.Alike present := by
  cases member <;> cases present <;>
    simp only [Member.sameAs, beq_iff_eq, Bool.false_eq_true] at same
  case tag.tag => exact same ▸ .same _
  case reference.reference => exact same ▸ .same _
  case pattern.pattern pattern other =>
    exact .matching (consistent name pattern other defined kept same.symm)

/-- Definitions that give all members that others give lead to all memberships of these. -/
theorem Consistent.belongs_mergeAll (consistent : Consistent others)
    (included : ∀ name member, Defines definitions name member → Defines others name member)
    (belongs : (empty.mergeAll definitions).Belongs tag name) :
    (empty.mergeAll others).Belongs tag name := by
  refine belongs.mono ?_
  intro group member listed
  rcases lists_or_defines_of_mergeAll listed with ⟨_, nowhere, _⟩ | defined
  · cases nowhere
  · have given := included group member defined
    rcases exists_lists_mergeAll empty given with ⟨present, there, same⟩
    refine ⟨present, there, ?_⟩
    rcases lists_or_defines_of_mergeAll there with ⟨_, nowhere, _⟩ | meant
    · cases nowhere
    · exact consistent.alike given meant same

theorem consistent_of_read
    (read : ∀ definition ∈ definitions, ∀ member ∈ definition.2, member.IsRead) :
    Consistent definitions := by
  intro name pattern other defined meant same tag
  have regexOf : ∀ pattern, Defines definitions name (.pattern pattern) →
      Regex.parse? pattern.source = some pattern.regex := by
    rintro pattern ⟨members, among, given⟩
    exact Member.parse?_of_isRead (read _ among _ given)
  have agree : some pattern.regex = some other.regex := by
    rw [← regexOf pattern defined, ← regexOf other meant, same]
  rw [Pattern.isMatch, Pattern.isMatch, Option.some.inj agree]

theorem Loaded.mergeAll (loaded : Loaded table) (definitions : List (String × List Member)) :
    Loaded (table.mergeAll definitions) := by
  induction definitions generalizing table with
  | nil => exact loaded
  | cons definition definitions ih =>
      have inserted := loaded.insert definition.1 definition.2
      rw [ends_insert] at inserted
      exact ih inserted

theorem Loaded.apart (loaded : Loaded table) : ∀ group ∈ table.groups, group.Apart := by
  apply loaded.holds
  · intro table name members apart
    exact apart_merge apart name members
  · exact nofun

/--
The order, the pieces and the repetitions of definitions do not matter: definitions that give the
same members to each name lead to the same memberships, provided that patterns with one text match
alike, as all patterns do that are read. A definition that comes later takes no membership away.
In every table each group is found under its own name only, and no member is there twice.
-/
theorem isMember_of_same_definitions_and_kept :
    (∀ definitions others, Consistent definitions →
      (∀ name member, Defines definitions name member ↔ Defines others name member) →
      ∀ tag name,
        (((insertAll definitions).ends .empty).2.isMember tag name).value =
          (((insertAll others).ends .empty).2.isMember tag name).value) ∧
    (∀ definitions, (∀ definition ∈ definitions, ∀ member ∈ definition.2, member.IsRead) →
      Consistent definitions) ∧
    ∀ table, Loaded table →
      (∀ name members tag group, (table.isMember tag group).value = true →
        (((insert name members).ends table).2.isMember tag group).value = true) ∧
      (∀ key group, table.find? key = some group ↔ group ∈ table.groups ∧ group.name = key) ∧
      ∀ group ∈ table.groups, group.Apart := by
  refine ⟨?_, fun definitions read => consistent_of_read read, ?_⟩
  · intro definitions others consistent same tag name
    have consistentOthers : Consistent others := by
      intro name pattern other defined meant
      exact consistent name pattern other ((same _ _).2 defined) ((same _ _).2 meant)
    rw [ends_insertAll, ends_insertAll, Bool.eq_iff_iff,
      (Loaded.empty.mergeAll definitions).distinct.isMember_iff,
      (Loaded.empty.mergeAll others).distinct.isMember_iff]
    constructor
    · exact consistentOthers.belongs_mergeAll fun name member => (same name member).1
    · exact consistent.belongs_mergeAll fun name member => (same name member).2
  · intro table loaded
    refine ⟨?_, fun key group => loaded.distinct.find?_eq_some_iff, loaded.apart⟩
    intro name members tag group member
    have inserted := loaded.insert name members
    rw [ends_insert] at inserted ⊢
    rw [loaded.distinct.isMember_iff] at member
    rw [inserted.distinct.isMember_iff]
    exact member.mono fun name member listed => ⟨member, listed.merge _ _, .same member⟩

/-- A pattern for tags that begin with two given letters. -/
def beginning : Pattern :=
  (Pattern.whole "st[a-z]*").toOption.get (by decide +kernel)

theorem beginning_eq : beginning = ⟨"^(?:st[a-z]*)$", .concat (.look .textStart)
    (.concat (.one (.single 's')) (.concat (.one (.single 't'))
      (.concat (.repetition (.one (.range 'a' 'z')) 0 none true) (.look .textEnd))))⟩ := by
  have parsed : Regex.parse? ("^(?:" ++ "st[a-z]*" ++ ")$") =
      some (.concat (.look .textStart) (.concat (.one (.single 's')) (.concat (.one (.single 't'))
        (.concat (.repetition (.one (.range 'a' 'z')) 0 none true) (.look .textEnd))))) := by
    decide +kernel
  simp only [beginning, Pattern.whole, Pattern.ofSource, parsed]
  rfl

/-- Two groups that refer to each other, defined in three pieces. -/
def pieces : List (String × List Member) :=
  [("Ales", [.tag "ipa", .reference "Styles"]), ("Styles", [.reference "Ales"]),
    ("Ales", [.pattern beginning, .tag "ipa"])]

/-- The same groups the other way round, defined at once, with a repetition. -/
def whole : List (String × List Member) :=
  [("Styles", [.reference "Ales", .reference "Ales"]),
    ("Ales", [.pattern beginning, .reference "Styles", .tag "ipa"])]

theorem eq_beginning_of_defines {pattern : Pattern}
    (defined : Defines pieces name (.pattern pattern)) : pattern = beginning := by
  rcases defined with ⟨members, among, given⟩
  simp only [pieces, List.mem_cons, Prod.mk.injEq, List.not_mem_nil, or_false] at among
  rcases among with ⟨-, rfl⟩ | ⟨-, rfl⟩ | ⟨-, rfl⟩
  · simp at given
  · simp at given
  · simpa using given

theorem defines_pieces_iff (name : String) (member : Member) :
    Defines pieces name member ↔ Defines whole name member := by
  simp only [Defines, pieces, whole, List.mem_cons, Prod.mk.injEq, List.not_mem_nil, or_false]
  grind

/-- A tag that a pattern of one group matches belongs to the other, however they are defined. -/
theorem isMember_of_same_definitions_pieces :
    let table := ((insertAll pieces).ends .empty).2
    let entries := [Member.tag "ipa", Member.reference "Styles"]
    Consistent pieces ∧ (∀ name member, Defines pieces name member ↔ Defines whole name member) ∧
      (((insertAll whole).ends .empty).2.isMember "stout" "Styles").value = true ∧
      (table.isMember "stout" "Styles").value = true ∧
      (∀ member ∈ entries, member.IsRead) ∧ Consistent [("Ales", entries)] ∧
      Loaded table ∧
      (((insert "Styles" [.reference "Wines"]).ends table).2.isMember "stout" "Styles").value =
        true ∧
      ∀ group ∈ table.groups, group.Apart := by
  intro table entries
  rcases isMember_of_same_definitions_and_kept with ⟨agree, consistentOfRead, kept⟩
  have consistent : Consistent pieces := by
    intro name pattern other defined meant _ tag
    rw [eq_beginning_of_defines defined, eq_beginning_of_defines meant]
  have inside : (((insertAll whole).ends .empty).2.isMember "stout" "Styles").value = true := by
    rw [whole, beginning_eq]
    cbv
  have insidePieces : (table.isMember "stout" "Styles").value = true := by
    rw [agree pieces whole consistent defines_pieces_iff, inside]
  have read : ∀ member ∈ entries, member.IsRead := by
    simp only [entries, List.forall_mem_cons]
    exact ⟨.inl ⟨"ipa", rfl⟩, .inl ⟨"/G|Styles", rfl⟩, by simp⟩
  have loaded : Loaded table := by
    simp only [table, ends_insertAll]
    exact Loaded.empty.mergeAll pieces
  rcases kept table loaded with ⟨later, -, apart⟩
  refine ⟨consistent, defines_pieces_iff, inside, insidePieces, read, ?_, loaded, ?_, apart⟩
  · exact consistentOfRead _ (by simpa using read)
  · exact later _ _ _ _ insidePieces

end GroupTable

end TagOrganizer
