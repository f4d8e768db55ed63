import TagOrganizer.Proofs.Json.Decoder
import TagOrganizer.TagGroup.Document

/-!
# The groups that a document lists

What a document says of groups, by its fields: each of the three formats has a list of groups, which
have a name and tags, and in two of them patterns. A tag may refer to another group. The groups that
are read from a document are those that it lists (`lists_of_definitionsOf`), and it lists no others
(`Lists.unique`).
-/

namespace TagOrganizer

namespace TagGroup

/-- Whether a member is what a tag stands for: all members of a group that it names, or itself. -/
def StandsFor (tag : String) (member : Member) : Prop :=
  (∃ group, (tag = "/G|" ++ group ∨ tag = "/C|" ++ group) ∧ member = .reference group) ∨
    (∀ group, tag ≠ "/G|" ++ group ∧ tag ≠ "/C|" ++ group) ∧ member = .tag tag

/-- Whether members come from some tags and, after these, from patterns that match whole tags. -/
def ComeFrom (tags patterns : List String) (members : List Member) : Prop :=
  ∃ named compiled, members = named ++ compiled.map .pattern ∧
    List.Forall₂ StandsFor tags named ∧
    List.Forall₂ (fun text pattern => Pattern.whole text = .ok pattern) patterns compiled

/-- Whether a value is a text. -/
def IsText (item : Json) (text : String) : Prop :=
  item = .text text

/-- Whether a value is a tag of an export of TagSpaces. -/
def IsTitled (item : Json) (title : String) : Prop :=
  item.entry? "title" 0 = some (.text title)

/-- Whether an entry of a group or category file defines a group with some members. -/
def Defines (item : Json) (group : String × List Member) : Prop :=
  ∃ tags patterns, item.entry? "name" 0 = some (.text group.1) ∧
    Json.Lists IsText (item.entry? "tags" 1) tags ∧
    Json.Lists IsText (item.entry? "patterns" 2) patterns ∧ ComeFrom tags patterns group.2

/-- Whether an entry of an export of TagSpaces defines a group with some members. -/
def Exports (item : Json) (group : String × List Member) : Prop :=
  ∃ tags, item.entry? "title" 0 = some (.text group.1) ∧
    Json.Lists IsTitled (item.entry? "children" 1) tags ∧ ComeFrom tags [] group.2

/-- Whether a document lists some groups, in their order. -/
inductive Lists (document : Json) (groups : List (String × List Member)) : Prop where
  | groupFile (kind : document.get? "file_type" = some (.text "tagsort_tag_groups"))
      (items : List Json) (listed : document.get? "tag_groups" = some (.array items))
      (defined : List.Forall₂ Defines items groups)
  | categoryFile (kind : document.get? "file_type" = some (.text "tagsort_tag_categories"))
      (items : List Json) (listed : document.get? "categories" = some (.array items))
      (defined : List.Forall₂ Defines items groups)
  | tagSpaces (kind : ∀ text, document.get? "file_type" ≠ some (.text text))
      (items : List Json) (listed : document.get? "tagGroups" = some (.array items))
      (defined : List.Forall₂ Exports items groups)

/-! ### What a document lists is determined -/

theorem mark_append_ne (group other : String) : "/G|" ++ group ≠ "/C|" ++ other := by
  intro same
  have chars := congrArg String.toList same
  simp at chars

theorem rightUnique_standsFor : Relator.RightUnique StandsFor := by
  rintro tag left right (⟨group, named, rfl⟩ | ⟨plain, rfl⟩) (⟨other, same, rfl⟩ | ⟨again, rfl⟩)
  · have cancel {mark : String} (same : mark ++ group = mark ++ other) : group = other := by
      simpa using same
    rcases named with rfl | rfl
    · rcases same with same | same
      · rw [cancel same]
      · exact absurd same (mark_append_ne _ _)
    · rcases same with same | same
      · exact absurd same.symm (mark_append_ne _ _)
      · rw [cancel same]
  · rcases named with named | named
    · exact absurd named (again group).1
    · exact absurd named (again group).2
  · rcases same with same | same
    · exact absurd same (plain other).1
    · exact absurd same (plain other).2
  · rfl

theorem ComeFrom.unique {tags patterns : List String} {members others : List Member}
    (come : ComeFrom tags patterns members) (again : ComeFrom tags patterns others) :
    members = others := by
  rcases come with ⟨named, compiled, rfl, stand, compile⟩
  rcases again with ⟨namedToo, compiledToo, rfl, standToo, compileToo⟩
  have same : compiled = compiledToo := by
    refine List.right_unique_forall₂' ?_ compile compileToo
    intro text left right found foundToo
    rw [found] at foundToo
    exact Except.ok.inj foundToo
  rw [List.right_unique_forall₂' rightUnique_standsFor stand standToo, same]

theorem rightUnique_isText : Relator.RightUnique IsText := by
  rintro item left right rfl same
  exact Json.text.inj same

theorem eq_of_found {found : Option Json} {text other : String} (given : found = some (.text text))
    (again : found = some (.text other)) : text = other :=
  Json.text.inj (Option.some.inj (given.symm.trans again))

theorem rightUnique_isTitled : Relator.RightUnique IsTitled :=
  fun _ _ _ => eq_of_found

theorem rightUnique_defines : Relator.RightUnique Defines := by
  rintro item ⟨name, members⟩ ⟨other, others⟩ ⟨tags, patterns, named, tagged, listed, come⟩
    ⟨tagsToo, patternsToo, namedToo, taggedToo, listedToo, comeToo⟩
  cases tagged.unique rightUnique_isText taggedToo
  cases listed.unique rightUnique_isText listedToo
  exact Prod.ext (eq_of_found named namedToo) (come.unique comeToo)

theorem rightUnique_exports : Relator.RightUnique Exports := by
  rintro item ⟨name, members⟩ ⟨other, others⟩ ⟨tags, named, tagged, come⟩
    ⟨tagsToo, namedToo, taggedToo, comeToo⟩
  cases tagged.unique rightUnique_isTitled taggedToo
  exact Prod.ext (eq_of_found named namedToo) (come.unique comeToo)

/-- A document lists its groups in one way only. -/
theorem Lists.unique {document : Json} {groups others : List (String × List Member)}
    (lists : Lists document groups) (again : Lists document others) : groups = others := by
  have same {α : Type} {means : Json → α → Prop} (single : Relator.RightUnique means)
      {found : Option Json} {items itemsToo : List Json} {values valuesToo : List α}
      (listed : found = some (.array items)) (listedToo : found = some (.array itemsToo))
      (each : List.Forall₂ means items values) (eachToo : List.Forall₂ means itemsToo valuesToo) :
      values = valuesToo :=
    Json.Lists.unique single (.inl ⟨items, listed, each⟩) (.inl ⟨itemsToo, listedToo, eachToo⟩)
  cases lists with
  | groupFile kind items listed defined =>
      cases again with
      | groupFile _ _ listedToo definedToo =>
          exact same rightUnique_defines listed listedToo defined definedToo
      | categoryFile other => exact absurd (eq_of_found kind other) (by decide)
      | tagSpaces other => exact absurd kind (other _)
  | categoryFile kind items listed defined =>
      cases again with
      | groupFile other => exact absurd (eq_of_found kind other) (by decide)
      | categoryFile _ _ listedToo definedToo =>
          exact same rightUnique_defines listed listedToo defined definedToo
      | tagSpaces other => exact absurd kind (other _)
  | tagSpaces kind items listed defined =>
      cases again with
      | groupFile other => exact absurd other (kind _)
      | categoryFile other => exact absurd other (kind _)
      | tagSpaces _ _ listedToo definedToo =>
          exact same rightUnique_exports listed listedToo defined definedToo

/-! ### What is read from a document -/

open Json.Decoder

theorem standsFor_ofEntry (tag : String) : StandsFor tag (.ofEntry tag) := by
  have isMarked {mark : List Char} {name : List Char}
      (stripped : Text.stripFront? mark tag.toList = some name) :
      tag = String.ofList mark ++ String.ofList name := by
    rw [← String.ofList_append, ← Text.stripFront?_eq_some_iff.1 stripped, String.ofList_toList]
  have notMarked {mark : List Char} (other : Text.stripFront? mark tag.toList = none)
      (group : String) : tag ≠ String.ofList mark ++ group := by
    rintro rfl
    simp at other
  unfold Member.ofEntry
  split
  · rename_i name stripped
    exact .inl ⟨_, .inl (isMarked stripped), rfl⟩
  · rename_i name _ stripped
    exact .inl ⟨_, .inr (isMarked stripped), rfl⟩
  · rename_i noGroup noCategory
    exact .inr ⟨fun group => ⟨notMarked noGroup group, notMarked noCategory group⟩, rfl⟩

theorem exists_of_ofPattern {patterns : List String} {members : List Member}
    (made : List.Forall₂ (fun text member => Member.ofPattern text = .ok member) patterns
      members) :
    ∃ compiled, members = compiled.map .pattern ∧
      List.Forall₂ (fun text pattern => Pattern.whole text = .ok pattern) patterns compiled := by
  induction made with
  | nil => exact ⟨[], rfl, .nil⟩
  | cons first _ ih =>
      rcases Except.map_eq_ok_iff.1 first with ⟨pattern, whole, rfl⟩
      rcases ih with ⟨compiled, rfl, rest⟩
      exact ⟨pattern :: compiled, rfl, .cons whole rest⟩

theorem comeFrom_of_members {entry : Entry} {members : List Member}
    (made : entry.members = .ok members) : ComeFrom entry.tags entry.patterns members := by
  rcases Except.bind_eq_ok_iff.1 made with ⟨found, all, same⟩
  cases same
  rcases exists_of_ofPattern (Except.mapM_eq_ok_iff.1 all) with ⟨compiled, rfl, compile⟩
  refine ⟨entry.tags.map .ofEntry, compiled, rfl, ?_, compile⟩
  exact List.forall₂_map_right_iff.2 (List.forall₂_same.2 fun tag _ => standsFor_ofEntry tag)

theorem isTitled_of_reads {item : Json} {title : String}
    (reads : TagSpacesExport.tagDecoder.Reads item title) : IsTitled item title :=
  eq_text_of_took (took_of_reads reads 0 id rfl (fun _ _ => rfl) (by simp))

theorem defines_of_reads {item : Json} {entry : Entry} {members : List Member}
    (reads : Entry.decoder.Reads item entry) (made : entry.members = .ok members) :
    Defines item (entry.name, members) := by
  have named := took_of_reads reads 0 Entry.name rfl (fun _ _ => rfl)
    (by simp [RecordField.may, keeps_field])
  have tagged := took_of_reads reads 1 Entry.tags rfl (fun _ _ => rfl)
    (by simp [RecordField.must, RecordField.may, keeps_field])
  have listed := took_of_reads reads 2 Entry.patterns rfl (fun _ _ => rfl)
    (by simp [RecordField.must, RecordField.may, keeps_field])
  exact ⟨entry.tags, entry.patterns, eq_text_of_took named,
    (lists_of_took tagged).mono fun _ _ => eq_text_of_reads,
    (lists_of_took listed).mono fun _ _ => eq_text_of_reads, comeFrom_of_members made⟩

theorem exports_of_reads {item : Json} {entry : Entry} {members : List Member}
    (reads : TagSpacesExport.entryDecoder.Reads item entry) (made : entry.members = .ok members) :
    Exports item (entry.name, members) := by
  have named := took_of_reads reads 0 Entry.name rfl (fun _ _ => rfl)
    (by simp [RecordField.may, keeps_field])
  have tagged := took_of_reads reads 1 Entry.tags rfl (fun _ _ => rfl)
    (by simp [RecordField.must, keeps_field])
  have plain : entry.patterns = [] := part_of_reads reads Entry.patterns
    (by simp [RecordField.must, RecordField.may, keeps_field])
  have come := comeFrom_of_members made
  rw [plain] at come
  exact ⟨entry.tags, eq_text_of_took named,
    (lists_of_took tagged).mono fun _ _ => isTitled_of_reads, come⟩

theorem reads_of_decode {α : Type} {decoder : Json.Decoder α} {document : Json} {value : α}
    (read : decode decoder document = .ok value) : decoder.Reads document value :=
  reads_of_ofJson (Except.mapError_eq_ok_iff.1 read)

theorem forall₂_of_reads {items : List Json} {entries : List Entry} {members : List (List Member)}
    {decoder : Json.Decoder Entry} {means : Json → String × List Member → Prop}
    (reads : List.Forall₂ decoder.Reads items entries)
    (made : List.Forall₂ (fun entry members => entry.members = .ok members) entries members)
    (meaning : ∀ item entry members, decoder.Reads item entry → entry.members = .ok members →
      means item (entry.name, members)) :
    List.Forall₂ means items ((entries.map Entry.name).zip members) := by
  induction reads generalizing members with
  | nil =>
      cases made
      exact .nil
  | cons first _ ih =>
      cases made with
      | cons makes rest => exact .cons (meaning _ _ _ first makes) (ih rest)

/-- The groups of a group or category file are read from the entry that lists them. -/
theorem exists_items_of_groupFile {document content : Json} {version groups name : String}
    {kind : Document} {entries : List Entry} (known : document.get? name = some content)
    (read : Evaluation.result (do
      let file ← decode (GroupFile.decoder version groups) document
      Version.requireSupported kind file.version fileVersion fileVersion
      return file.entries) = .ok entries)
    (different : version ≠ groups) :
    ∃ items, document.get? groups = some (.array items) ∧
      List.Forall₂ Entry.decoder.Reads items entries := by
  rw [Evaluation.result_bind] at read
  rcases Except.bind_eq_ok_iff.1 read with ⟨file, decoded, read⟩
  rw [Evaluation.result_bind] at read
  rcases Except.bind_eq_ok_iff.1 read with ⟨-, -, read⟩
  cases read
  have took := took_of_reads (reads_of_decode decoded) 1 GroupFile.entries rfl (fun _ _ => rfl)
    (by simp [RecordField.must, keeps_field, different])
  rcases eq_some_of_took took with ⟨listed, found, reads⟩
  rcases exists_array_of_reads reads with ⟨items, rfl, each⟩
  rw [Json.entry?_of_get? known] at found
  exact ⟨items, found, each⟩

theorem exists_items_of_tagSpaces {document content : Json} {name : String}
    {entries : List Entry} (known : document.get? name = some content)
    (read : Evaluation.result (do
      let file ← decode TagSpacesExport.decoder document
      if file.isNewer then tell (.newerTagSpaces file.appVersion file.settingsVersion)
      return file.entries) = .ok entries) :
    ∃ items, document.get? "tagGroups" = some (.array items) ∧
      List.Forall₂ TagSpacesExport.entryDecoder.Reads items entries := by
  rw [Evaluation.result_bind] at read
  rcases Except.bind_eq_ok_iff.1 read with ⟨file, decoded, read⟩
  have same : file.entries = entries := by
    simp only at read
    split at read
    · cases read
      rfl
    · cases read
      rfl
  have took := took_of_reads (reads_of_decode decoded) 2 TagSpacesExport.entries rfl
    (fun _ _ => rfl) (by simp [RecordField.must, keeps_field])
  rcases eq_some_of_took took with ⟨listed, found, reads⟩
  rcases exists_array_of_reads reads with ⟨items, rfl, each⟩
  rw [Json.entry?_of_get? known] at found
  rw [same] at each
  exact ⟨items, found, each⟩

theorem bind_asText?_eq_some_iff {found : Option Json} {text : String} :
    found.bind Json.asText? = some text ↔ found = some (.text text) := by
  rcases found with _ | ⟨_ | _ | _ | content | _ | _⟩ <;> simp [Json.asText?]

/-- The groups that are read from a document are those that it lists. -/
theorem lists_of_definitionsOf {document : Json} {groups : List (String × List Member)}
    (read : (definitionsOf document).result = .ok groups) : Lists document groups := by
  rw [definitionsOf, Evaluation.result_bind] at read
  rcases Except.bind_eq_ok_iff.1 read with ⟨entries, found, read⟩
  rw [Evaluation.result_bind] at read
  rcases Except.bind_eq_ok_iff.1 read with ⟨members, made, read⟩
  cases read
  have made := Except.mapM_eq_ok_iff.1 made
  unfold entriesOf at found
  split at found
  · rename_i fileType kind
    rw [bind_asText?_eq_some_iff] at kind
    split at found
    · rename_i isGroups
      rw [isGroups] at kind
      rcases exists_items_of_groupFile kind found (by decide) with ⟨items, listed, each⟩
      exact .groupFile kind items listed
        (forall₂_of_reads each made fun _ _ _ => defines_of_reads)
    · split at found
      · rename_i isCategories
        rw [isCategories] at kind
        rcases exists_items_of_groupFile kind found (by decide) with ⟨items, listed, each⟩
        exact .categoryFile kind items listed
          (forall₂_of_reads each made fun _ _ _ => defines_of_reads)
      · cases found
  · rename_i noText
    have kind : ∀ text, document.get? "file_type" ≠ some (.text text) := by
      intro text given
      rw [bind_asText?_eq_some_iff.2 given] at noText
      cases noText
    split at found
    · rename_i given
      rcases Option.isSome_iff_exists.1 given with ⟨content, known⟩
      rcases exists_items_of_tagSpaces known found with ⟨items, listed, each⟩
      exact .tagSpaces kind items listed
        (forall₂_of_reads each made fun _ _ _ => exports_of_reads)
    · cases found

end TagGroup

end TagOrganizer
