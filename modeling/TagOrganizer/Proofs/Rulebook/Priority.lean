import Mathlib
import TagOrganizer.Proofs.Loading
import TagOrganizer.Proofs.Placement.Walk
import TagOrganizer.Renaming.Namer

/-!
# Priority of earlier rules

Rules that are added to a rulebook come into play where the rules so far leave room
(`findFormat_and_find_of_added`). A format of the later rules names a file for which no earlier
filter holds. A place by the later rules counts if the earlier ones give none, or if it is complete
and the earlier one is not. An error among the earlier rules is not passed over: a filter without
condition sets can be loaded, and then stops every search that comes to it (`findFormat_unfilled`).
-/

namespace TagOrganizer

namespace Rulebook

/-- The format that the renaming rules give to files with the given tags. -/
def findFormat (rulebook : Rulebook) (tags : List String) (resolver : Resolver) :
    Evaluation (Option String) :=
  Namer.formatOf? tags resolver rulebook.renamingRules

/-- A namer finds the formats of the rulebook that it is made from. -/
theorem findFormat_ofRulebook {rulebook : Rulebook} {namer : Namer}
    (made : (Namer.ofRulebook rulebook).result = .ok namer) (tags : List String)
    (resolver : Resolver) :
    namer.findFormat tags resolver = rulebook.findFormat tags resolver := by
  have rules : namer.rules = rulebook.renamingRules := by
    unfold Namer.ofRulebook at made
    cases empty : rulebook.renamingRules.isEmpty with
    | true => simp [empty] at made
    | false =>
        cases patterns : rulebook.unnamedPatterns.isEmpty <;>
          simp only [empty, patterns, Bool.false_eq_true, if_false, if_true,
            Evaluation.result_bind, Evaluation.result_tell, Evaluation.result_logged,
            Except.ok_bind, Evaluation.result_pure, Except.ok.injEq] at made <;>
          rw [← made]
  rw [Namer.findFormat, findFormat, rules]

end Rulebook

/-- The later rules are asked if no filter of the earlier ones holds. -/
theorem Namer.result_formatOf?_append (tags : List String) (resolver : Resolver)
    (front back : List RenamingRule) :
    (formatOf? tags resolver (front ++ back)).result =
      (formatOf? tags resolver front).result >>= fun found =>
        match found with
        | some format => .ok (some format)
        | none => (formatOf? tags resolver back).result := by
  induction front with
  | nil => rfl
  | cons rule front ih =>
      rw [List.cons_append, formatOf?, formatOf?, Evaluation.result_bind, Evaluation.result_bind]
      cases (rule.filter.holds tags resolver).result with
      | error error => rfl
      | ok holds =>
          cases holds with
          | true => rfl
          | false => exact ih

namespace Rulebook

theorem ends_load_of_ends_load {source : Source} {fresh : Rulebook}
    (loaded : (load source false).ends .empty = (.ok (), fresh)) (rulebook : Rulebook) :
    (load source true).ends rulebook = (.ok (), rulebook.append fresh) := by
  rw [adds_load source false .empty] at loaded
  rw [adds_load source true rulebook]
  cases held : source.rules with
  | error error =>
      rw [held] at loaded
      cases loaded
  | ok rules =>
      rw [held] at loaded
      simp only [Bool.false_eq_true, if_false, empty_append, Prod.mk.injEq, true_and] at loaded
      simp [loaded]

/--
Rules that are added to those of another document leave the priority to these. Their formats count
for files for which no earlier filter holds. Their places count for files that the earlier rules
send nowhere, or to an incomplete place if theirs is complete.
-/
theorem findFormat_and_find_of_added {earlier later : Rulebook} {source : Source}
    (loaded : (load source false).ends .empty = (.ok (), later))
    (moves : earlier.movementRules ≠ []) (movesLater : later.movementRules ≠ []) :
    ∃ both, (load source true).ends earlier = (.ok (), both) ∧
      (∀ tags resolver, (both.findFormat tags resolver).result =
        match (earlier.findFormat tags resolver).result with
        | .ok (some format) => .ok (some format)
        | .ok none => (later.findFormat tags resolver).result
        | .error error => .error error) ∧
      ∀ file resolver found,
        (Placement.find file earlier.movementRules resolver).result = .ok found →
        (found.complete = true →
          (Placement.find file both.movementRules resolver).result = .ok found) ∧
        (found.complete = false → ∀ other,
          (Placement.find file later.movementRules resolver).result = .ok other →
          (Placement.find file both.movementRules resolver).result =
            .ok (if other.complete = true then other
              else if found.isMiss = false then found else other)) := by
  refine ⟨earlier.append later, ends_load_of_ends_load loaded earlier, ?_, ?_⟩
  · intro tags resolver
    unfold findFormat append
    rw [Namer.result_formatOf?_append]
    cases (Namer.formatOf? tags resolver earlier.renamingRules).result with
    | error error => rfl
    | ok format? => cases format? <;> rfl
  · intro file resolver found walked
    rw [Placement.result_find, List.isEmpty_eq_false_iff.2 moves] at walked
    -- Where the earlier rules are walked through to the end, the walk goes on in the later ones.
    have walkedBoth : (Placement.find file (earlier.append later).movementRules resolver).result =
        if found.complete then .ok found
        else (Placement.find file later.movementRules resolver).result.map found.orElse := by
      rw [Placement.result_find, Placement.result_find, List.isEmpty_eq_false_iff.2 movesLater]
      have filled : (earlier.append later).movementRules.isEmpty = false := by
        simp [append, moves]
      rw [filled]
      simp only [Bool.false_eq_true, if_false, append] at walked ⊢
      rw [Placement.result_bestOf_append, walked, Except.ok_bind]
    constructor
    · intro complete
      rw [walkedBoth, if_pos complete]
    · intro incomplete other walkedLater
      rw [walkedBoth, walkedLater, incomplete]
      simp only [Bool.false_eq_true, if_false, Except.map_ok, Placement.orElse, incomplete]
      cases found.isMiss <;> rfl

section Shelves

/-- A document with one rule for names and one for places, both with the same filter. -/
def document (filter : List Json) (format subfolder : String) : Json :=
  .object
    [("file_type", .text "tagsort_schema"),
      ("movement_schema", .array
        [.object [("filter", .array filter), ("subfolder", .text subfolder)]]),
      ("renaming_schemas", .array
        [.object [("filter", .array filter), ("format_string", .text format)]]),
      ("schema_file_version", .text "1.1")]

/-- What `document` holds for a decoder. -/
def entriesOf (filter : List Json) (format subfolder : String) : Entries where
  fileType := "tagsort_schema"
  version := .text "1.1"
  formats := []
  unnamed := []
  renamings := [⟨.array filter, format⟩]
  movements := [.level (.array filter) subfolder []]

theorem requireSupported_newest :
    Version.requireSupported .rules (.text "1.1") oldestVersion newestVersion = .ok () := by
  have newest : Version.parse? "1.1" = some ⟨[1, 1]⟩ := by decide +kernel
  have oldest : Version.parse? "1.0" = some ⟨[1, 0]⟩ := by decide +kernel
  have within : Version.isWithin ⟨[1, 1]⟩ ⟨[1, 0]⟩ ⟨[1, 1]⟩ = true := by cbv
  simp only [Version.requireSupported, Version.textOf, Version.read, oldestVersion, newestVersion,
    newest, oldest, Except.ok_bind, within, if_true]
  rfl

theorem ends_load_document {filter : List Json} {format subfolder : String} {parsed : Filter}
    (decoded : Json.Decoder.ofJson Entries.decoder (document filter format subfolder) =
      .ok (entriesOf filter format subfolder))
    (read : (Filter.ofJson (.array filter)).result = .ok parsed) :
    (load (.value (document filter format subfolder)) false).ends .empty =
      (.ok (), ⟨[], [], [⟨parsed, format⟩], [.level parsed subfolder []]⟩) := by
  have held : (ofEntries (entriesOf filter format subfolder)).result =
      .ok ⟨[], [], [⟨parsed, format⟩], [.level parsed subfolder []]⟩ := by
    unfold ofEntries
    simp [entriesOf, fileType, requireSupported_newest, tagFormatsOf, RenamingEntry.rule, read,
      MovementEntry.rules, MovementEntry.rule]
  rw [adds_load, Source.rules, ofDecoded, decoded]
  simp only [Except.mapError, Except.ok_bind, held, Bool.false_eq_true, if_false, empty_append]

/-- Rules that name beer, and put it away if it is cold. -/
def cellar : Rulebook where
  tagFormats := []
  unnamedPatterns := []
  renamingRules := [⟨⟨[⟨[.tag "ale"]⟩]⟩, "Beer"⟩]
  movementRules := [.level ⟨[⟨[.tag "ale"]⟩]⟩ "Ale" [.level ⟨[⟨[.tag "cold"]⟩]⟩ "" []]]

/-- Rules for all files. -/
def shelf : Rulebook where
  tagFormats := []
  unnamedPatterns := []
  renamingRules := [⟨⟨[⟨[.all]⟩]⟩, "Thing"⟩]
  movementRules := [.level ⟨[⟨[.all]⟩]⟩ "Shelf" []]

theorem ends_load_shelf :
    (load (.value (document [.text "/*|"] "Thing" "Shelf")) false).ends .empty =
      (.ok (), shelf) :=
  ends_load_document rfl (by cbv)

/-- Beer that is not cold goes to the shelf, but is still named as beer. -/
theorem findFormat_and_find_of_added_cellar :
    let source := Source.value (document [.text "/*|"] "Thing" "Shelf")
    let ale := TaggedFile.undecided "x" "[ale]" "" ["ale"] "x[ale]" ⟨"/x"⟩
    let resolver := GroupTable.empty.resolver
    (load source false).ends .empty = (.ok (), shelf) ∧ cellar.movementRules ≠ [] ∧
      shelf.movementRules ≠ [] ∧
      ∃ both, (load source true).ends cellar = (.ok (), both) ∧
        (both.findFormat ["ale"] resolver).result = .ok (some "Beer") ∧
        (both.findFormat [] resolver).result = .ok (some "Thing") ∧
        (Placement.find ale both.movementRules resolver).result = .ok ⟨true, ⟨"Shelf"⟩⟩ := by
  intro source ale resolver
  have stuck : (Placement.find ale cellar.movementRules resolver).result =
      .ok ⟨false, ⟨"Ale"⟩⟩ := by cbv
  have shelved : (Placement.find ale shelf.movementRules resolver).result =
      .ok ⟨true, ⟨"Shelf"⟩⟩ := by cbv
  have moves : cellar.movementRules ≠ [] := by simp [cellar]
  have movesLater : shelf.movementRules ≠ [] := by simp [shelf]
  rcases findFormat_and_find_of_added ends_load_shelf moves movesLater with
    ⟨both, added, formats, places⟩
  have beer : (cellar.findFormat ["ale"] resolver).result = .ok (some "Beer") := by cbv
  have other : (cellar.findFormat [] resolver).result = .ok none := by cbv
  have thing : (shelf.findFormat [] resolver).result = .ok (some "Thing") := by cbv
  refine ⟨ends_load_shelf, moves, movesLater, both, added, ?_, ?_, ?_⟩
  · rw [formats, beer]
  · rw [formats, other]
    exact thing
  · rw [(places ale resolver _ stuck).2 rfl _ shelved]
    rfl

/-- Rules whose filters hold no condition set. -/
def unfilled : Rulebook where
  tagFormats := []
  unnamedPatterns := []
  renamingRules := [⟨⟨[]⟩, "Beer"⟩]
  movementRules := [.level ⟨[]⟩ "Ale" []]

/-- Behind a filter without condition sets no later rule is asked, although one has a format. -/
theorem findFormat_unfilled :
    let resolver := GroupTable.empty.resolver
    let source := Source.value (document [.text "/*|"] "Thing" "Shelf")
    (load (.value (document [] "Beer" "Ale")) false).ends .empty = (.ok (), unfilled) ∧
      (load source false).ends .empty = (.ok (), shelf) ∧
      (load source true).ends unfilled = (.ok (), unfilled.append shelf) ∧
      unfilled.movementRules ≠ [] ∧ shelf.movementRules ≠ [] ∧
      (∀ format, (unfilled.findFormat [] resolver).result ≠ .ok (some format)) ∧
      (shelf.findFormat [] resolver).result = .ok (some "Thing") ∧
      ((unfilled.append shelf).findFormat [] resolver).result = .error .emptyFilter := by
  intro resolver source
  have failed : (unfilled.findFormat [] resolver).result = .error .emptyFilter := by cbv
  refine ⟨ends_load_document rfl (by cbv), ends_load_shelf,
    ends_load_of_ends_load ends_load_shelf _, by simp [unfilled], by simp [shelf], ?_, by cbv,
    by cbv⟩
  intro format found
  rw [failed] at found
  cases found

end Shelves

end Rulebook

end TagOrganizer
