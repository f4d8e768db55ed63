import Mathlib
import TagOrganizer.Proofs.Placement.Walk
import TagOrganizer.Proofs.Selection.Agreement
import TagOrganizer.Proofs.Template.Seams
import TagOrganizer.Proofs.Template.Shorthands

/-!
# Placement by the set of tags

Neither the order in which a file carries its tags nor how often it carries one has an influence on
its place (`find_eq_of_same_tags`). Conditions ask whether some tag is there. Only the search for
a tag of a group asks which one comes first, so subfolders must not contain one. The proof compares
the evaluations for two lists of the same tags: for conditions, for the tokens of a format, and
along the walk through the movement tree.
-/

namespace TagOrganizer

section Tags

variable {resolver : Resolver} {tags others : List String}

/-! ### Conditions -/

theorem Condition.meets_congr (same : ∀ tag, tag ∈ tags ↔ tag ∈ others)
    (belongs : (tag group : String) → Bool) (condition : Condition) :
    condition.meets tags belongs = condition.meets others belongs := by
  have some_belongs (group : String) :
      (tags.any fun tag => belongs tag group) = others.any fun tag => belongs tag group := by
    rw [Bool.eq_iff_iff, List.any_eq_true, List.any_eq_true]
    simp only [same]
  induction condition with
  | tag name => simp only [meets, List.contains_eq_mem, same]
  | group name => exact some_belongs name
  | category name => exact some_belongs name
  | all => rfl
  | not condition ih => rw [meets, meets, ih]

theorem Condition.value_holds_congr (picks : resolver.PicksFirst)
    (same : ∀ tag, tag ∈ tags ↔ tag ∈ others) (condition : Condition) :
    (condition.holds tags resolver).value = (condition.holds others resolver).value := by
  rw [value_holds picks, value_holds picks, meets_congr same]

theorem ConditionSet.value_holds_congr (picks : resolver.PicksFirst)
    (same : ∀ tag, tag ∈ tags ↔ tag ∈ others) (set : ConditionSet) :
    (set.holds tags resolver).value = (set.holds others resolver).value := by
  simp only [value_holds picks, Condition.meets_congr same]

theorem ConditionSet.result_check_congr (picks : resolver.PicksFirst)
    (same : ∀ tag, tag ∈ tags ↔ tag ∈ others) (text : String) :
    (check tags resolver text).result = (check others resolver text).result := by
  simp only [result_check, Condition.result_check, Condition.value_holds_congr picks same]

theorem Filter.result_holds_congr (picks : resolver.PicksFirst)
    (same : ∀ tag, tag ∈ tags ↔ tag ∈ others) (filter : Filter) :
    (filter.holds tags resolver).result = (filter.holds others resolver).result := by
  simp only [result_holds, ConditionSet.value_holds_congr picks same]

end Tags

/-! ### Formats -/

namespace Template

variable {file : TaggedFile} {resolver : Resolver} {tags : List String}

/-- A format that, once its spans are left out, searches for no tag of a group. -/
structure SearchesNoGroup (format : String) : Prop where
  not_mem : ∀ stripped, (stripSpans format).result = .ok stripped →
    ∀ group, Token.tagInGroup group ∉ tokens stripped

theorem SearchesNoGroup.of_result {format stripped : String}
    (kept : (stripSpans format).result = .ok stripped)
    (absent : ∀ group, Token.tagInGroup group ∉ tokens stripped) : SearchesNoGroup format := by
  constructor
  intro other ended
  rw [kept] at ended
  cases ended
  exact absent

theorem emit_with_tags {token : Token} (searchless : ∀ group, token ≠ .tagInGroup group)
    (format : String) :
    emit { file with tags } resolver format token = emit file resolver format token := by
  cases token with
  | tagInGroup group => exact absurd rfl (searchless group)
  | _ => rfl

theorem emitAll_with_tags {written : List Token}
    (searchless : ∀ group, Token.tagInGroup group ∉ written) (format : String) :
    emitAll { file with tags } resolver format written = emitAll file resolver format written := by
  induction written with
  | nil => rfl
  | cons token written ih =>
      have first : ∀ group, token ≠ .tagInGroup group := by
        rintro group rfl
        exact searchless group (by simp)
      have rest := ih fun group present => searchless group (by simp [present])
      rw [emitAll, emitAll, emit_with_tags first, rest]

/-- Either branch of a conditional and what follows it are some of the tokens that are read. -/
theorem subset_of_readConditional? {written rest : List Token} {conditional : Conditional}
    (read : readConditional? written = some (conditional, rest)) :
    (∀ holds : Bool,
      (if holds then conditional.branchTrue else conditional.branchFalse) ⊆ written) ∧
      rest ⊆ written := by
  simp only [readConditional?, Option.bind_eq_bind, Option.bind_eq_some_iff, Option.pure_def,
    Option.some.injEq, Prod.mk.injEq, Prod.exists] at read
  rcases read with ⟨condition, _, first, yes, _, second, no, _, third, rfl, rfl⟩
  rw [(breakAt?_eq_some_iff.1 first).1, (breakAt?_eq_some_iff.1 second).1,
    (breakAt?_eq_some_iff.1 third).1]
  constructor
  · intro holds token present
    cases holds with
    | true => simp [show token ∈ yes from present]
    | false => simp [show token ∈ no from present]
  · intro token present
    simp [present]

theorem result_render_with_tags (picks : resolver.PicksFirst)
    (same : ∀ tag, tag ∈ file.tags ↔ tag ∈ tags) {written : List Token}
    (searchless : ∀ group, Token.tagInGroup group ∉ written) (format : String) :
    (render { file with tags } resolver format written).result =
      (render file resolver format written).result := by
  fun_induction render file resolver format written with
  | case1 => rw [render]
  | case2 written missing => rw [render_of_not_readConditional? _ _ _ missing]
  | case3 written conditional rest read condition ih =>
      rcases subset_of_readConditional? read with ⟨branch, after⟩
      have within {part : List Token} (inside : part ⊆ written) (group : String) :
          Token.tagInGroup group ∉ part := by
        intro present
        exact searchless group (List.mem_cons_of_mem _ (inside present))
      have taken (holds : Bool) :
          emitAll { file with tags } resolver format
              (if holds then conditional.branchTrue else conditional.branchFalse) =
            emitAll file resolver format
              (if holds then conditional.branchTrue else conditional.branchFalse) :=
        emitAll_with_tags (within (branch holds)) format
      rw [render_of_readConditional? _ _ _ read]
      simp only [Evaluation.result_bind, taken, ih (within after),
        ← ConditionSet.result_check_congr picks same]
      rfl
  | case4 token written unconditional ih =>
      have first : ∀ group, token ≠ .tagInGroup group := by
        rintro group rfl
        exact searchless group (by simp)
      have rest := ih fun group present => searchless group (by simp [present])
      rw [render, if_neg unconditional, emit_with_tags first]
      simp only [Evaluation.result_bind, rest]

theorem result_nameAlone_with_tags (picks : resolver.PicksFirst)
    (same : ∀ tag, tag ∈ file.tags ↔ tag ∈ tags) {format : String}
    (searchless : SearchesNoGroup format) :
    (nameAlone format { file with tags } resolver).result =
      (nameAlone format file resolver).result := by
  unfold nameAlone
  rw [Evaluation.result_bind, Evaluation.result_bind]
  cases stripped : (stripSpans format).result with
  | error error => rfl
  | ok plain =>
      -- Writing choices as conditionals brings in no search.
      have unsearched (group : String) : Token.tagInGroup group ∉ tokens (simplify plain) := by
        rw [tokens_simplify, tagInGroup_mem_flatMap_asConditional]
        exact searchless.not_mem plain stripped group
      simp only [Except.ok_bind, result_substitute,
        result_render_with_tags picks same unsearched]

end Template

/-! ### Walks -/

/-- The rules of a movement forest, on all its levels. -/
inductive MovementRule.Within : List MovementRule → MovementRule → Prop where
  | first {rule : MovementRule} {rules : List MovementRule} : Within (rule :: rules) rule
  | inside {rule inner : MovementRule} {rules : List MovementRule}
      (within : Within rule.sublevels inner) : Within (rule :: rules) inner
  | later {rule inner : MovementRule} {rules : List MovementRule} (within : Within rules inner) :
      Within (rule :: rules) inner

namespace Placement

open MovementRule (Within)

variable {file : TaggedFile} {resolver : Resolver} {tags : List String}

theorem result_segmentOf_with_tags (picks : resolver.PicksFirst)
    (same : ∀ tag, tag ∈ file.tags ↔ tag ∈ tags) {subfolder : String}
    (searchless : Template.SearchesNoGroup subfolder) :
    (segmentOf { file with tags } resolver subfolder).result =
      (segmentOf file resolver subfolder).result := by
  unfold segmentOf
  split
  · rfl
  · simp only [Evaluation.result_bind, Template.result_nameAlone_with_tags picks same searchless]

/-- A walk from a rule on is decided by its filter, its subfolder and the walk below it. -/
theorem result_ofRule_of_below (picks : resolver.PicksFirst)
    (same : ∀ tag, tag ∈ file.tags ↔ tag ∈ tags) (filter : Filter) {subfolder : String}
    {sublevels : List MovementRule} (searchless : Template.SearchesNoGroup subfolder)
    (below : (bestOf { file with tags } resolver none sublevels).result =
      (bestOf file resolver none sublevels).result) :
    (ofRule { file with tags } resolver (.level filter subfolder sublevels)).result =
      (ofRule file resolver (.level filter subfolder sublevels)).result := by
  rw [ofRule, ofRule, Evaluation.result_bind, Evaluation.result_bind,
    Filter.result_holds_congr picks same]
  congr 1
  funext holds
  cases holds with
  | false => simp only [Bool.false_eq_true, if_false]
  | true =>
      simp only [if_true, Evaluation.result_bind, result_segmentOf_with_tags picks same searchless]
      congr 1
      funext path
      split
      · rfl
      · simp only [Evaluation.result_bind, below]

mutual

theorem result_ofRule_with_tags (picks : resolver.PicksFirst)
    (same : ∀ tag, tag ∈ file.tags ↔ tag ∈ tags) (rule : MovementRule)
    (searchless : Template.SearchesNoGroup rule.subfolder)
    (below : ∀ inner, Within rule.sublevels inner → Template.SearchesNoGroup inner.subfolder) :
    (ofRule { file with tags } resolver rule).result = (ofRule file resolver rule).result := by
  match rule with
  | .level filter subfolder sublevels =>
      have walked := result_bestOf_with_tags picks same none sublevels below
      exact result_ofRule_of_below picks same filter searchless walked

theorem result_bestOf_with_tags (picks : resolver.PicksFirst)
    (same : ∀ tag, tag ∈ file.tags ↔ tag ∈ tags) (kept : Option Path)
    (rules : List MovementRule)
    (searchless : ∀ inner, Within rules inner → Template.SearchesNoGroup inner.subfolder) :
    (bestOf { file with tags } resolver kept rules).result =
      (bestOf file resolver kept rules).result := by
  match rules with
  | [] => rw [bestOf, bestOf]
  | rule :: rules =>
      have first : (ofRule { file with tags } resolver rule).result =
          (ofRule file resolver rule).result :=
        result_ofRule_with_tags picks same rule (searchless rule .first) fun inner within =>
          searchless inner (.inside within)
      have others (kept : Option Path) : (bestOf { file with tags } resolver kept rules).result =
          (bestOf file resolver kept rules).result :=
        result_bestOf_with_tags picks same kept rules fun inner within =>
          searchless inner (.later within)
      simp only [result_bestOf_cons, first, others]

end

/--
Where a file goes does not depend on the order of its tags, nor on how often it carries one, if no
subfolder searches for a tag of a group.
-/
theorem find_eq_of_same_tags (table : GroupTable) {rules : List MovementRule}
    (searchless : ∀ rule, Within rules rule → Template.SearchesNoGroup rule.subfolder)
    (file : TaggedFile) {tags : List String} (same : ∀ tag, tag ∈ file.tags ↔ tag ∈ tags) :
    (find { file with tags } rules table.resolver).result =
      (find file rules table.resolver).result := by
  rw [result_find, result_find,
    result_bestOf_with_tags table.picksFirst_resolver same none rules searchless]

/-- Ales that are not stouts, and among them those with a tag that names the subfolder. -/
def coolAles : List MovementRule :=
  [.level ⟨[⟨[.group "Ales", .not (.tag "stout")]⟩]⟩ "Ales" [.level ⟨[⟨[.all]⟩]⟩ "/?T|cold/|" []]]

/-- A tag that is carried twice and in front counts like one that is carried once at the end. -/
theorem find_eq_of_same_tags_coolAles :
    let table : GroupTable := ⟨[⟨"Ales", [.tag "ipa"]⟩]⟩
    let file := TaggedFile.undecided "x" "[cold ipa cold]" "" ["cold", "ipa", "cold"] "x" ⟨"/x"⟩
    (∀ rule, Within coolAles rule → Template.SearchesNoGroup rule.subfolder) ∧
      (∀ tag, tag ∈ file.tags ↔ tag ∈ ["ipa", "cold"]) ∧
      (find file coolAles table.resolver).result = .ok ⟨true, ⟨"Ales/cold"⟩⟩ ∧
      (find { file with tags := ["ipa", "cold"] } coolAles table.resolver).result =
        .ok ⟨true, ⟨"Ales/cold"⟩⟩ := by
  intro table file
  have outer : Template.SearchesNoGroup "Ales" := by
    have kept : (Template.stripSpans "Ales").result = .ok "Ales" := by cbv
    have read : Template.tokens "Ales" = [.text "Ales"] := by cbv
    exact .of_result kept (by simp [read])
  have inner : Template.SearchesNoGroup "/?T|cold/|" := by
    have kept : (Template.stripSpans "/?T|cold/|").result = .ok "/?T|cold/|" := by cbv
    have read : Template.tokens "/?T|cold/|" = [.tagChoice "cold"] := by cbv
    exact .of_result kept (by simp [read])
  have searchless : ∀ rule, Within coolAles rule → Template.SearchesNoGroup rule.subfolder := by
    intro rule within
    cases within with
    | first => exact outer
    | inside within =>
        cases within with
        | first => exact inner
        | inside within => cases within
        | later within => cases within
    | later within => cases within
  have same (tag : String) : tag ∈ file.tags ↔ tag ∈ ["ipa", "cold"] := by
    simp only [file, TaggedFile.undecided, List.mem_cons, List.not_mem_nil, or_false]
    tauto
  have found : (find file coolAles table.resolver).result = .ok ⟨true, ⟨"Ales/cold"⟩⟩ := by cbv
  exact ⟨searchless, same, found, (find_eq_of_same_tags table searchless file same).trans found⟩

end Placement

end TagOrganizer
