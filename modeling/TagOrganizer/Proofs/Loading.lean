import TagOrganizer.Proofs.Act
import TagOrganizer.Proofs.TagGroup.Document
import TagOrganizer.Rulebook.Document

/-!
# Loading is all or nothing

What a document holds does not depend on what has been loaded before. It is read completely before
anything is changed: a document that cannot be read changes nothing, and one that can be read takes
the place of what has been loaded or is added to it (`allOrNothing_load`). The groups that are added
are those that the document lists.
-/

namespace TagOrganizer

/-- How a document is given: as a value, as a text, or as the text of a file. -/
inductive Source where
  | value (document : Json)
  | text (document : String)
  | file (tree : FileTree) (path : Path)

namespace Act

variable {σ α : Type}

/-- Whether an act that can add to a state or start anew adds some content, if there is any. -/
def Adds (load : Bool → Act σ Unit) (empty : σ) (add : σ → α → σ) (content : Except Error α) :
    Prop :=
  ∀ append before, (load append).ends before =
    match content with
    | .ok value => (.ok (), add (if append then before else empty) value)
    | .error error => (.error error, before)

/--
Whether loading is all or nothing: it ends in the same way in every state, changes nothing if it
fails, starts anew from `empty` or adds to the state if it succeeds, in both cases as `added` says.
-/
structure AllOrNothing (load : Bool → Act σ Unit) (empty : σ) (added : σ → σ → Prop) : Prop where
  decided : ∀ append other before state,
    ((load append).ends before).1 = ((load other).ends state).1
  failed : ∀ append before error after,
    (load append).ends before = (.error error, after) → after = before
  replaced : ∀ before after, (load false).ends before = (.ok (), after) →
    (∀ other, (load false).ends other = (.ok (), after)) ∧ added empty after
  appended : ∀ before after, (load true).ends before = (.ok (), after) → added before after

variable {load : Bool → Act σ Unit} {empty : σ} {add : σ → α → σ} {content : Except Error α}

/-- Reading first and then adding what has been read adds it. -/
theorem Adds.of_read {β : Type} {read : Except Error β} {next : β → Bool → Act σ Unit}
    {contentOf : β → Except Error α}
    (adds : ∀ value, Adds (next value) empty add (contentOf value)) :
    Adds (fun append => (liftM read : Act σ β) >>= fun value => next value append) empty add
      (read >>= contentOf) := by
  intro append before
  cases read with
  | ok value => exact adds value append before
  | error error => rfl

/-- What is told after adding something does not matter. -/
theorem Adds.tell (adds : Adds load empty add content) (event : Event) :
    Adds (fun append => load append >>= fun _ => tell event) empty add content := by
  intro append before
  rw [ends_bind, adds append before]
  cases content with
  | ok value => rfl
  | error error => rfl

/-- What is told before adding something does not matter. -/
theorem Adds.told (adds : Adds load empty add content) (computation : Logged Unit) :
    Adds (fun append => (liftM computation : Act σ Unit) >>= fun _ => load append) empty add
      content := by
  intro append before
  rw [ends_bind, ends_logged]
  exact adds append before

theorem Adds.allOrNothing (adds : Adds load empty add content) {added : σ → σ → Prop}
    (meaning : ∀ before value, content = .ok value → added before (add before value)) :
    AllOrNothing load empty added where
  decided := by
    intro append other before state
    rw [adds append before, adds other state]
    cases content with
    | ok value => rfl
    | error error => rfl
  failed := by
    intro append before error after ended
    rw [adds append before] at ended
    cases content with
    | ok value => cases ended
    | error fault =>
        cases ended
        rfl
  replaced := by
    intro before after ended
    rw [adds false before] at ended
    cases content with
    | ok value =>
        cases ended
        exact ⟨fun other => adds false other, meaning empty value rfl⟩
    | error error => cases ended
  appended := by
    intro before after ended
    rw [adds true before] at ended
    cases content with
    | ok value =>
        cases ended
        exact meaning before value rfl
    | error error => cases ended

end Act

open Act

/-! ### Groups -/

/-- The groups that a document in a text defines. -/
def TagGroup.definitionsOfText (document : String) :
    Except Error (List (String × List TagGroup.Member)) := do
  let value ← (Json.ofText document).mapError Error.unreadable
  (TagGroup.definitionsOf value).result

/-- Whether a text holds a document that lists some groups. -/
def TagGroup.ListsInText (text : String) (groups : List (String × List TagGroup.Member)) : Prop :=
  ∃ document, Json.ofText text = .ok document ∧ TagGroup.Lists document groups

namespace Source

/-- Whether a document lists some groups, in their order. -/
def Lists : Source → (groups : List (String × List TagGroup.Member)) → Prop
  | .value document, groups => TagGroup.Lists document groups
  | .text document, groups => TagGroup.ListsInText document groups
  | .file tree path, groups =>
      ∃ document, tree.readFile path = .ok document ∧ TagGroup.ListsInText document groups

/-- The groups that are read from a document, in their order. -/
def definitions : Source → Except Error (List (String × List TagGroup.Member))
  | .value document => (TagGroup.definitionsOf document).result
  | .text document => TagGroup.definitionsOfText document
  | .file tree path => tree.readFile path >>= TagGroup.definitionsOfText

variable {source : Source} {groups others : List (String × List TagGroup.Member)}

theorem listsInText_of_definitions {text : String}
    (read : TagGroup.definitionsOfText text = .ok groups) : TagGroup.ListsInText text groups := by
  rcases Except.bind_eq_ok_iff.1 read with ⟨document, decoded, read⟩
  exact ⟨document, Except.mapError_eq_ok_iff.1 decoded, TagGroup.lists_of_definitionsOf read⟩

theorem lists_of_definitions (read : source.definitions = .ok groups) : source.Lists groups := by
  cases source with
  | value document => exact TagGroup.lists_of_definitionsOf read
  | text document => exact listsInText_of_definitions read
  | file tree path =>
      rcases Except.bind_eq_ok_iff.1 read with ⟨document, found, read⟩
      exact ⟨document, found, listsInText_of_definitions read⟩

theorem unique_of_listsInText {text : String} (lists : TagGroup.ListsInText text groups)
    (again : TagGroup.ListsInText text others) : groups = others := by
  rcases lists with ⟨document, decoded, lists⟩
  rcases again with ⟨same, decodedAgain, again⟩
  rw [decoded] at decodedAgain
  cases decodedAgain
  exact lists.unique again

theorem Lists.unique (lists : source.Lists groups) (again : source.Lists others) :
    groups = others := by
  cases source with
  | value document => exact TagGroup.Lists.unique lists again
  | text document => exact unique_of_listsInText lists again
  | file tree path =>
      rcases lists with ⟨document, found, lists⟩
      rcases again with ⟨same, foundAgain, again⟩
      rw [found] at foundAgain
      cases foundAgain
      exact unique_of_listsInText lists again

end Source

namespace GroupTable

/-- Loads the groups of a document into a table. -/
def load : Source → (append : Bool) → Act GroupTable Unit
  | .value document => loadValue document
  | .text document => loadText document
  | .file tree path => loadFile tree path

/-- Inserts groups into a table, one after the other. -/
def insertAll (definitions : List (String × List TagGroup.Member)) : Act GroupTable Unit :=
  definitions.forM fun definition => insert definition.1 definition.2

/-- The table after groups have been merged into it, one after the other. -/
def mergeAll (table : GroupTable) (definitions : List (String × List TagGroup.Member)) :
    GroupTable :=
  definitions.foldl (fun table definition => table.merge definition.1 definition.2) table

variable (table : GroupTable) (definitions : List (String × List TagGroup.Member))

theorem ends_insert (name : String) (members : List TagGroup.Member) :
    (insert name members).ends table = (.ok (), table.merge name members) := by
  unfold insert
  rw [ends_bind, ends_get]
  simp only
  split
  · rw [ends_bind, ends_tell]
    rfl
  · rfl

theorem ends_insertAll :
    (insertAll definitions).ends table = (.ok (), table.mergeAll definitions) := by
  induction definitions generalizing table with
  | nil => rfl
  | cons definition definitions ih =>
      rw [insertAll, List.forM_eq_forM, List.forM_cons, ends_bind, ends_insert]
      exact ih _

theorem ends_forIn_insert :
    Act.ends (forIn definitions PUnit.unit fun definition _ => do
      insert definition.1 definition.2
      pure (ForInStep.yield PUnit.unit)) table =
      (.ok PUnit.unit, table.mergeAll definitions) := by
  induction definitions generalizing table with
  | nil => rfl
  | cons definition definitions ih =>
      rw [List.forIn_cons, ends_bind, ends_bind, ends_insert]
      exact ih _

theorem adds_loadValue (document : Json) :
    Adds (loadValue document) empty mergeAll (TagGroup.definitionsOf document).result := by
  intro append before
  unfold loadValue
  rw [ends_bind, ends_evaluation]
  cases (TagGroup.definitionsOf document).result with
  | error error => rfl
  | ok definitions =>
      cases append with
      | true =>
          simp only [Bool.not_true, Bool.false_eq_true, if_false, if_true]
          rw [ends_bind, ends_forIn_insert]
          rfl
      | false =>
          simp only [Bool.not_false, if_true]
          rw [ends_bind, ends_set]
          simp only
          rw [ends_bind, ends_forIn_insert]
          rfl

theorem adds_loadText (document : String) :
    Adds (loadText document) empty mergeAll (TagGroup.definitionsOfText document) :=
  Adds.of_read fun value => adds_loadValue value

theorem adds_loadFile (tree : FileTree) (path : Path) :
    Adds (loadFile tree path) empty mergeAll
      (tree.readFile path >>= TagGroup.definitionsOfText) := by
  have loaded : Adds (loadContent tree path) empty mergeAll
      (tree.readFile path >>= TagGroup.definitionsOfText) :=
    Adds.of_read fun document => (adds_loadText document).tell _
  exact loaded.told _

theorem adds_load (source : Source) :
    Adds (load source) empty mergeAll source.definitions := by
  cases source with
  | value document => exact adds_loadValue document
  | text document => exact adds_loadText document
  | file tree path => exact adds_loadFile tree path

end GroupTable

/-! ### Rules -/

/-- The rules in the content of a document, if it can be decoded. -/
def Rulebook.ofDecoded (entries : Except Json.Fault Entries) : Except Error Rulebook := do
  let entries ← entries.mapError Error.unreadable
  (ofEntries entries).result

/-- The rules that a document holds. -/
def Source.rules : Source → Except Error Rulebook
  | .value document =>
      Rulebook.ofDecoded (Json.Decoder.ofJson Rulebook.Entries.decoder document)
  | .text document =>
      Rulebook.ofDecoded (Json.Decoder.ofText Rulebook.Entries.decoder document)
  | .file tree path => do
      let document ← tree.readFile path
      Rulebook.ofDecoded (Json.Decoder.ofText Rulebook.Entries.decoder document)

namespace Rulebook

/-- Loads the rules of a document into a rulebook. -/
def load : Source → (append : Bool) → Act Rulebook Unit
  | .value document => loadValue document
  | .text document => loadText document
  | .file tree path => loadFile tree path

theorem empty_append (rulebook : Rulebook) : empty.append rulebook = rulebook := by
  simp [append, empty]

theorem adds_loadEntries (entries : Entries) :
    Adds (loadEntries entries) empty append (ofEntries entries).result := by
  intro append before
  unfold loadEntries
  rw [ends_bind, ends_evaluation]
  cases (ofEntries entries).result with
  | error error => rfl
  | ok loaded =>
      cases append with
      | true => rfl
      | false =>
          simp only [Bool.false_eq_true, if_false, empty_append]
          rfl

theorem adds_loadText (document : String) :
    Adds (loadText document) empty append
      (ofDecoded (Json.Decoder.ofText Entries.decoder document)) :=
  Adds.of_read adds_loadEntries

theorem adds_load (source : Source) : Adds (load source) empty append source.rules := by
  cases source with
  | value document => exact Adds.of_read adds_loadEntries
  | text document => exact adds_loadText document
  | file tree path =>
      have loaded : Adds (loadContent tree path) empty append (Source.file tree path).rules :=
        Adds.of_read fun document => (adds_loadText document).tell _
      exact loaded.told _

end Rulebook

/--
Loading groups or rules is all or nothing, however the document is given. Groups that are added are
those that the document lists, inserted in their order; rules that are added come after those that
are there, as a fresh load gives them.
-/
theorem allOrNothing_load (source : Source) :
    AllOrNothing (GroupTable.load source) .empty
        (fun before after => (∃ groups, source.Lists groups) ∧ ∀ groups, source.Lists groups →
          (GroupTable.insertAll groups).ends before = (.ok (), after)) ∧
      AllOrNothing (Rulebook.load source) .empty
        (fun before after => ∃ fresh,
          (Rulebook.load source false).ends .empty = (.ok (), fresh) ∧
          after.tagFormats = before.tagFormats ++ fresh.tagFormats ∧
          after.unnamedPatterns = before.unnamedPatterns ++ fresh.unnamedPatterns ∧
          after.renamingRules = before.renamingRules ++ fresh.renamingRules ∧
          after.movementRules = before.movementRules ++ fresh.movementRules) := by
  have rules := Rulebook.adds_load source
  refine ⟨(GroupTable.adds_load source).allOrNothing ?_, rules.allOrNothing ?_⟩
  · intro before definitions held
    have lists := Source.lists_of_definitions held
    refine ⟨⟨definitions, lists⟩, fun groups listed => ?_⟩
    rw [listed.unique lists]
    exact GroupTable.ends_insertAll before definitions
  · intro before fresh held
    have loaded := rules false .empty
    rw [held] at loaded
    simp only [Bool.false_eq_true, if_false, Rulebook.empty_append] at loaded
    exact ⟨fresh, loaded, rfl, rfl, rfl, rfl⟩

section Cellar

/-- A group file with one group, of a reference, a tag and a pattern. -/
def beers (pattern : String) : Json :=
  .object
    [("file_type", .text "tagsort_tag_groups"),
      ("tag_group_file_version", .text "1.0"),
      ("tag_groups", .array
        [.object [("name", .text "Beer"), ("patterns", .array [.text pattern]),
          ("tags", .array [.text "/G|Ales", .text "stout"])]])]

/-- A table that has the group with other members. -/
def cellar : GroupTable :=
  ⟨[⟨"Beer", [.tag "stout", .tag "ipa"]⟩]⟩

theorem requireSupported_fileVersion :
    Version.requireSupported .groups (.text "1.0") TagGroup.fileVersion TagGroup.fileVersion =
      .ok () := by
  have only : Version.parse? "1.0" = some ⟨[1, 0]⟩ := by decide +kernel
  have within : Version.isWithin ⟨[1, 0]⟩ ⟨[1, 0]⟩ ⟨[1, 0]⟩ = true := by cbv
  simp only [Version.requireSupported, Version.textOf, Version.read, TagGroup.fileVersion, only,
    Except.ok_bind, within, if_true]
  rfl

theorem definitions_beers (pattern : String) :
    (Source.value (beers pattern)).definitions = (Pattern.whole pattern).map fun compiled =>
      [("Beer", [.reference "Ales", .tag "stout", .pattern compiled])] := by
  have decoded : TagGroup.decode (TagGroup.GroupFile.decoder "tag_group_file_version" "tag_groups")
      (beers pattern) = .ok ⟨.text "1.0", [⟨"Beer", ["/G|Ales", "stout"], [pattern]⟩]⟩ := rfl
  have kind : ((beers pattern).get? "file_type").bind Json.asText? =
      some TagGroup.groupFileType := rfl
  have entries : (TagGroup.entriesOf (beers pattern)).result =
      .ok [⟨"Beer", ["/G|Ales", "stout"], [pattern]⟩] := by
    simp [TagGroup.entriesOf, kind, decoded, requireSupported_fileVersion]
  have reference : TagGroup.Member.ofEntry "/G|Ales" = .reference "Ales" := by cbv
  have tag : TagGroup.Member.ofEntry "stout" = .tag "stout" := by cbv
  have members : (⟨"Beer", ["/G|Ales", "stout"], [pattern]⟩ : TagGroup.Entry).members =
      (Pattern.whole pattern).map fun compiled =>
        [.reference "Ales", .tag "stout", .pattern compiled] := by
    unfold TagGroup.Entry.members TagGroup.Member.ofPattern
    cases compiled : Pattern.whole pattern with
    | error error => simp [compiled]; rfl
    | ok found => simp [compiled, reference, tag]
  rw [Source.definitions, TagGroup.definitionsOf, Evaluation.result_bind, entries]
  cases compiled : Pattern.whole pattern with
  | error error => simp [members, compiled]; rfl
  | ok found => simp [members, compiled]

/-- A document with a pattern is added; where the pattern is wrong, nothing is changed. -/
theorem allOrNothing_load_beers :
    (GroupTable.load (.value (beers "(")) true).ends cellar =
        (.error (.invalidPattern "("), cellar) ∧
      ∃ compiled, Pattern.whole "ale" = .ok compiled ∧
        TagGroup.Lists (beers "ale")
          [("Beer", [.reference "Ales", .tag "stout", .pattern compiled])] ∧
        (GroupTable.load (.value (beers "ale")) true).ends cellar = (.ok (),
          ⟨[⟨"Beer", [.tag "stout", .tag "ipa", .reference "Ales", .pattern compiled]⟩]⟩) := by
  constructor
  · have unread : Regex.parse? ("^(?:" ++ "(" ++ ")$") = none := by decide +kernel
    have refused : ((GroupTable.load (.value (beers "(")) true).ends cellar).1 =
        .error (.invalidPattern "(") := by
      simp only [GroupTable.adds_load (.value (beers "(")) true cellar, definitions_beers,
        Pattern.whole, Pattern.ofSource, unread]
      rfl
    rcases allOrNothing_load (.value (beers "(")) with ⟨groups, -⟩
    exact Prod.ext refused (groups.failed true cellar _ _ (Prod.ext refused rfl))
  · have read : (Regex.parse? ("^(?:" ++ "ale" ++ ")$")).isSome = true := by decide +kernel
    rcases Option.isSome_iff_exists.1 read with ⟨regex, parsed⟩
    have compiled : Pattern.whole "ale" = .ok ⟨"^(?:" ++ "ale" ++ ")$", regex⟩ := by
      simp only [Pattern.whole, Pattern.ofSource, parsed]
    have lists : TagGroup.Lists (beers "ale") _ :=
      Source.lists_of_definitions ((definitions_beers "ale").trans (by rw [compiled]; rfl))
    have added : ((GroupTable.load (.value (beers "ale")) true).ends cellar).1 = .ok () := by
      simp only [GroupTable.adds_load (.value (beers "ale")) true cellar, definitions_beers,
        compiled]
      rfl
    rcases allOrNothing_load (.value (beers "ale")) with ⟨groups, -⟩
    have inserted := (groups.appended cellar _ (Prod.ext added rfl)).2 _ lists
    rw [GroupTable.ends_insertAll] at inserted
    exact ⟨_, compiled, lists, Prod.ext added (Prod.mk.inj inserted).2.symm⟩

end Cellar

end TagOrganizer
