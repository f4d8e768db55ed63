import Mathlib
import TagOrganizer.Proofs.Template.Phrases

/-!
# Meaning of formats

A format of the grammar comes out as its phrases do, one after the other: without its spans if it
names the first file of a name, and with its spans unwrapped and numbered otherwise
(`nameAlone_and_nameNumbered_formatOf`). The format is written and read again between the stages of
the evaluation; no stage sees other phrases than the ones that were meant.
-/

namespace TagOrganizer

namespace Template

namespace Grammar

/-! ### Choices become conditionals -/

/-- A tag as a condition. -/
def Guard.ofTag (tag : Name) : Guard where
  text := tag.text
  set := ⟨[.tag tag.text]⟩
  read := ConditionSet.result_parse_of_written (.plain (.tag tag.filled tag.slashless))

/-- A group as a condition. -/
def Guard.ofGroup (group : Name) : Guard where
  text := String.ofList (Condition.groupMark ++ group.text.toList)
  set := ⟨[.group group.text]⟩
  read := by
    have proper : (Condition.group group.text).IsProper := ⟨group.filled, group.slashless⟩
    exact ConditionSet.result_parse_of_written (Condition.written_text proper)

/-- A name as a text. -/
def Name.plain (name : Name) : Plain :=
  ⟨name.text, name.slashless⟩

/-- A phrase with a choice written as a conditional. -/
def Item.asConditional : Item → Item
  | tagChoice tag => conditional (.ofTag tag) [.text tag.plain] []
  | groupChoice group => conditional (.ofGroup group) [.text group.plain] []
  | phrase => phrase

theorem Simple.asConditional_token (phrase : Simple) :
    phrase.token.asConditional = [phrase.token] := by
  cases phrase <;> rfl

theorem Simple.flatMap_asConditional (phrases : List Simple) :
    (phrases.map token).flatMap Token.asConditional = phrases.map token := by
  rw [List.flatMap_map, List.flatMap_congr fun phrase _ => phrase.asConditional_token]
  exact List.flatMap_pure_eq_map _ _

theorem Item.flatMap_asConditional_tokens (phrase : Item) :
    phrase.tokens.flatMap Token.asConditional = phrase.asConditional.tokens := by
  cases phrase with
  | simple phrase => simp [tokens, asConditional, phrase.asConditional_token]
  | tagChoice tag => rfl
  | groupChoice group => rfl
  | conditional guard yes no =>
      simp [tokens, asConditional, conditionalTokens, Token.asConditional,
        Simple.flatMap_asConditional]

variable {file : TaggedFile} {resolver : Resolver} {format : String}

theorem Item.value_asConditional (phrase : Item) :
    phrase.asConditional.value file resolver.belongs = phrase.value file resolver.belongs := by
  cases phrase with
  | tagChoice tag =>
      by_cases carried : tag.text ∈ file.tags <;>
        simp [asConditional, value, Guard.meets, Guard.ofTag, Condition.meets, carried,
          Simple.value, Name.plain]
  | groupChoice group =>
      by_cases met : ∃ tag ∈ file.tags, resolver.belongs tag group.text = true <;>
        simp [asConditional, value, Guard.meets, Guard.ofGroup, Condition.meets, met,
          Simple.value, Name.plain]
  | _ => rfl

theorem isClean_of_mem_tokens (items : List Item) :
    ∀ token ∈ items.flatMap Item.tokens, token.IsClean := by
  intro token present
  rcases List.mem_flatMap.1 present with ⟨phrase, -, among⟩
  exact (Item.isClean_and_isSpanMarker among).1

theorem tokens_written (items : List Item) :
    tokens (written items) = (items.flatMap Item.tokens).foldr Token.attach [] := by
  rw [← source_tokens, tokens_source (isClean_of_mem_tokens items)]

theorem simplify_written (items : List Item) :
    simplify (written items) = written (items.map Item.asConditional) := by
  rw [← source_tokens, simplify_source (isClean_of_mem_tokens items), ← source_tokens,
    List.flatMap_assoc, List.flatMap_map]
  congr 1
  exact List.flatMap_congr fun phrase _ => phrase.flatMap_asConditional_tokens

/-! ### Phrases come out -/

theorem Simple.output_token (picks : resolver.PicksFirst) (phrase : Simple) :
    phrase.token.output file resolver = phrase.value file resolver.belongs := by
  cases phrase with
  | tagInGroup group => simp [token, Token.output, value, picks file.tags group.text]
  | _ => rfl

theorem Simple.flatMap_output_token (picks : resolver.PicksFirst) (phrases : List Simple) :
    (phrases.map token).flatMap (Token.output file resolver) =
      phrases.flatMap (value file resolver.belongs) := by
  rw [List.flatMap_map]
  exact List.flatMap_congr fun phrase _ => phrase.output_token picks

/-- A phrase comes out in front of what follows it. -/
theorem Item.result_render (picks : resolver.PicksFirst) (phrase : Item) (tokens : List Token) :
    (render file resolver format (phrase.asConditional.tokens.foldr Token.attach tokens)).result =
      (render file resolver format tokens).result.map
        (phrase.value file resolver.belongs ++ ·) := by
  rw [← phrase.value_asConditional]
  cases shape : phrase.asConditional with
  | simple phrase =>
      have unconditional : phrase.token ≠ .conditionStart := by
        cases phrase <;> simp [Simple.token]
      rw [Item.tokens, List.foldr_cons, List.foldr_nil,
        result_render_attach unconditional phrase.isSpanMarker_token, phrase.output_token picks]
      rfl
  | tagChoice tag => cases phrase <;> cases shape
  | groupChoice group => cases phrase <;> cases shape
  | conditional guard yes no =>
      have unmarked {marker : Token} (kind : ∀ phrase : Simple, phrase.token ≠ marker)
          (phrases : List Simple) : marker ∉ phrases.map Simple.token := by
        simp [kind]
      have unspanned (phrases : List Simple) :
          ∀ token ∈ phrases.map Simple.token, token.isSpanMarker = false := by
        simp [Simple.isSpanMarker_token]
      rw [Item.tokens, result_render_conditional guard.text guard.read
        (unmarked (by rintro ⟨⟩ <;> simp [Simple.token]) yes)
        (unmarked (by rintro ⟨⟩ <;> simp [Simple.token]) no) (unspanned yes) (unspanned no),
        ConditionSet.value_holds picks, value, Guard.meets]
      congr 1
      funext rest
      split
      · rw [Simple.flatMap_output_token picks]
      · rw [Simple.flatMap_output_token picks]

theorem result_render_items (picks : resolver.PicksFirst) (items : List Item) :
    (render file resolver format
        (((items.map Item.asConditional).flatMap Item.tokens).foldr Token.attach [])).result =
      .ok (items.flatMap (Item.value file resolver.belongs)) := by
  induction items with
  | nil => simp [render]
  | cons phrase items ih =>
      rw [List.map_cons, List.flatMap_cons, List.foldr_append, phrase.result_render picks, ih]
      rfl

theorem Item.value_of_written_eq_nil {belongs : (tag group : String) → Bool} {phrase : Item}
    (nothing : phrase.written = []) : phrase.value file belongs = [] := by
  cases phrase with
  | simple phrase =>
      cases phrase with
      | text plain => exact nothing
      | _ => simp [written, Simple.written] at nothing
  | _ => simp [written] at nothing

theorem valueOf_of_written_eq_empty {belongs : (tag group : String) → Bool} {items : List Item}
    (nothing : written items = "") : valueOf file belongs items = "" := by
  simp only [written, valueOf, String.ofList_eq_empty_iff, List.flatMap_eq_nil_iff] at nothing ⊢
  exact fun phrase present => phrase.value_of_written_eq_nil (nothing phrase present)

/-- Evaluating a format gives what it comes out as, unless this is empty. -/
def outcome (format value : String) : Except Error String :=
  if value = "" then .error (if format = "" then .emptyFormat else .emptyResult format)
  else .ok value

/-- A format without spans comes out as its phrases do. -/
theorem result_substitute_written (picks : resolver.PicksFirst) (items : List Item) :
    (substitute (written items) file resolver).result =
      outcome (written items) (valueOf file resolver.belongs items) := by
  rw [result_substitute]
  by_cases empty : written items = ""
  · rw [if_pos empty, outcome, if_pos (valueOf_of_written_eq_empty empty), if_pos empty]
  · rw [if_neg empty, simplify_written, tokens_written, result_render_items picks,
      Except.ok_bind, outcome, if_neg empty]
    simp only [valueOf, String.ofList_eq_empty_iff]

/-- A name without spans is what the phrases outside of them come out as. -/
theorem result_nameAlone_formatOf (elements : List Element) (picks : resolver.PicksFirst) :
    (nameAlone (formatOf elements) file resolver).result =
      outcome (written (alone elements)) (valueOf file resolver.belongs (alone elements)) := by
  rw [nameAlone, Evaluation.result_bind, result_stripSpans_formatOf, Except.ok_bind,
    result_substitute_written picks]

/-- A numbered name is what the phrases come out as with all spans unwrapped. -/
theorem result_nameNumbered_formatOf (elements : List Element) (picks : resolver.PicksFirst)
    (number : Nat) :
    (nameNumbered (formatOf elements) number file resolver).result =
      outcome (written (numbered number elements))
        (valueOf file resolver.belongs (numbered number elements)) := by
  rw [nameNumbered, Evaluation.result_bind, result_numberSpans_formatOf, Except.ok_bind,
    result_substitute_written picks]

theorem eq_of_outcome_eq_ok {value name : String} (named : outcome format value = .ok name) :
    name = value := by
  unfold outcome at named
  split at named
  · cases named
  · exact (Except.ok.inj named).symm

/-- Formats mean what their phrases say. -/
theorem nameAlone_and_nameNumbered_formatOf (elements : List Element) (file : TaggedFile)
    {resolver : Resolver} (picks : resolver.PicksFirst) (number : Nat) :
    (nameAlone (formatOf elements) file resolver).result =
        outcome (written (alone elements)) (valueOf file resolver.belongs (alone elements)) ∧
      (nameNumbered (formatOf elements) number file resolver).result =
        outcome (written (numbered number elements))
          (valueOf file resolver.belongs (numbered number elements)) := by
  constructor
  · rw [nameAlone, Evaluation.result_bind, result_stripSpans_formatOf, Except.ok_bind,
      result_substitute_written picks]
  · rw [nameNumbered, Evaluation.result_bind, result_numberSpans_formatOf, Except.ok_bind,
      result_substitute_written picks]

/-- A condition set of two conditions, the second of which is negated. -/
def coldUnlessSour : Guard where
  text := "cold/&|/!|sour"
  set := ⟨[.tag "cold", .not (.tag "sour")]⟩
  read := by cbv

/-- A format with a group, a conditional, a choice and a numbered span. -/
def beerFormat : List Element :=
  [ .item (.simple (.tagInGroup ⟨"Beer", by decide, by decide⟩)),
    .item (.conditional coldUnlessSour [.text ⟨" on ice", by decide⟩] [.file]),
    .span [.item (.tagChoice ⟨"cold", by decide, by decide⟩), .occurrence],
    .item (.groupChoice ⟨"Wine", by decide, by decide⟩),
    .item (.simple .extension) ]

/-- The twelfth file of a name gets the span and its number, the first one does not. -/
theorem nameAlone_and_nameNumbered_beerFormat :
    let file :=
      TaggedFile.undecided "x" "[cold ale]" ".txt" ["cold", "ale"] "x[cold ale].txt" ⟨"x"⟩
    let table : GroupTable := ⟨[⟨"Beer", [.tag "porter", .tag "ale"]⟩]⟩
    formatOf beerFormat =
        "/?TIG|Beer/|/?|cold/&|/!|sour/T| on ice/F|/FILE|/E?|/ITER|/?T|cold/|/#|/EITER|" ++
          "/?G|Wine/|/EXT|" ∧
      table.resolver.PicksFirst ∧
      (nameAlone (formatOf beerFormat) file table.resolver).result = .ok "ale on ice.txt" ∧
      (nameNumbered (formatOf beerFormat) 12 file table.resolver).result =
        .ok "ale on icecold12.txt" := by
  intro file table
  have picks := table.picksFirst_resolver
  rcases nameAlone_and_nameNumbered_formatOf beerFormat file picks 12 with ⟨first, twelfth⟩
  refine ⟨rfl, picks, first.trans ?_, twelfth.trans ?_⟩
  · cbv
  · cbv

end Grammar

end Template

end TagOrganizer
