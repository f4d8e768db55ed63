import TagOrganizer.Proofs.Selection.Grammar
import TagOrganizer.Proofs.Template.Grammar
import TagOrganizer.Proofs.Template.Parts
import TagOrganizer.Proofs.Template.Rendering

/-!
# Phrases as tokens

The phrases of a format are read back as the tokens that they are written as, and only its spans
hold markers of spans. Leaving out or numbering the spans of a format therefore gives the format of
the phrases that are meant (`result_stripSpans_formatOf`, `result_numberSpans_formatOf`).
-/

namespace TagOrganizer

namespace Template

/-! ### Conditions hold no markers -/

theorem inert_of_plainlyWritten {text : String} {condition : Condition}
    (written : Condition.PlainlyWritten text condition) : Inert text.toList := by
  cases written with
  | all => simp [Inert, markerHeads]
  | group _ slashless =>
      have mark : Inert "/G|".toList := by simp [Inert, markerHeads]
      rw [String.toList_append]
      exact mark.append (inert_of_not_mem slashless)
  | category _ slashless =>
      have mark : Inert "/C|".toList := by simp [Inert, markerHeads]
      rw [String.toList_append]
      exact mark.append (inert_of_not_mem slashless)
  | tag _ slashless => exact inert_of_not_mem slashless

theorem inert_of_written {text : String} {condition : Condition}
    (written : Condition.Written text condition) : Inert text.toList := by
  cases written with
  | plain written => exact inert_of_plainlyWritten written
  | negated written =>
      have mark : Inert "/!|".toList := by simp [Inert, markerHeads]
      rw [String.toList_append]
      exact mark.append (inert_of_plainlyWritten written)

theorem inert_of_parse {text : String} {set : ConditionSet}
    (read : (ConditionSet.parse text).result = .ok set) : Inert text.toList := by
  rw [← (ConditionSet.isJoined_fragments text).joined]
  apply Inert.intercalate (by simp [Inert, ConditionSet.delimiter, markerHeads])
  intro piece present
  by_cases empty : piece = []
  · rw [empty]
    trivial
  · rcases (ConditionSet.exists_result_parse_iff.1 ⟨set, read⟩).2 piece present empty with
      ⟨condition, written⟩
    simpa using inert_of_written written

namespace Grammar

/-! ### Tokens of phrases -/

/-- The token of a phrase of a branch. -/
def Simple.token : Simple → Token
  | text plain => .text plain.text
  | file => .file
  | extension => .extension
  | tags => .tags
  | tagInGroup group => .tagInGroup group.text

/-- The tokens of a phrase outside of spans. -/
def Item.tokens : Item → List Token
  | simple phrase => [phrase.token]
  | tagChoice tag => [.tagChoice tag.text]
  | groupChoice group => [.groupChoice group.text]
  | conditional guard yes no =>
      conditionalTokens guard.text (yes.map Simple.token) (no.map Simple.token)

/-- The tokens of a phrase of a span. -/
def SpanItem.tokens : SpanItem → List Token
  | item phrase => phrase.tokens
  | occurrence => [.occurrence]

/-- The parts of a phrase of a format. -/
def Element.parts : Element → List Part
  | item phrase => phrase.tokens.map Part.plain
  | span inner => [.span (inner.flatMap SpanItem.tokens)]

theorem Name.isName (name : Name) : Condition.isName name.text.toList = true := by
  simp [Condition.isName, name.filled, name.slashless]

theorem Simple.isClean_token (phrase : Simple) : phrase.token.IsClean := by
  cases phrase with
  | text plain => exact inert_of_not_mem plain.slashless
  | tagInGroup group => exact group.isName
  | _ => trivial

theorem Simple.isSpanMarker_token (phrase : Simple) : phrase.token.isSpanMarker = false := by
  cases phrase <;> rfl

/-- Phrases outside of spans are read back as they are written, and hold no markers of spans. -/
theorem Item.isClean_and_isSpanMarker {phrase : Item} {token : Token}
    (present : token ∈ phrase.tokens) : token.IsClean ∧ token.isSpanMarker = false := by
  cases phrase with
  | simple phrase =>
      rw [List.mem_singleton.1 present]
      exact ⟨phrase.isClean_token, phrase.isSpanMarker_token⟩
  | tagChoice tag =>
      rw [List.mem_singleton.1 present]
      exact ⟨tag.isName, rfl⟩
  | groupChoice group =>
      rw [List.mem_singleton.1 present]
      exact ⟨group.isName, rfl⟩
  | conditional guard yes no =>
      simp only [tokens, conditionalTokens, List.mem_cons, List.mem_append, List.mem_map,
        List.not_mem_nil, or_false] at present
      rcases present with rfl | rfl | rfl | ⟨phrase, -, rfl⟩ | rfl | ⟨phrase, -, rfl⟩ | rfl
      · exact ⟨trivial, rfl⟩
      · exact ⟨inert_of_parse guard.read, rfl⟩
      · exact ⟨trivial, rfl⟩
      · exact ⟨phrase.isClean_token, phrase.isSpanMarker_token⟩
      · exact ⟨trivial, rfl⟩
      · exact ⟨phrase.isClean_token, phrase.isSpanMarker_token⟩
      · exact ⟨trivial, rfl⟩

theorem SpanItem.isClean_of_mem_tokens {phrase : SpanItem} {token : Token}
    (present : token ∈ phrase.tokens) : token.IsClean := by
  cases phrase with
  | item phrase => exact (Item.isClean_and_isSpanMarker present).1
  | occurrence =>
      rw [List.mem_singleton.1 present]
      trivial

theorem Element.isClean_of_mem_parts {phrase : Element} {token : Token}
    (present : token ∈ phrase.parts.flatMap Part.tokens) : token.IsClean := by
  cases phrase with
  | item phrase =>
      simp only [parts, List.flatMap_map, Part.tokens, List.flatMap_singleton'] at present
      exact (Item.isClean_and_isSpanMarker present).1
  | span inner =>
      simp only [parts, Part.tokens, List.flatMap_singleton, List.mem_cons, List.mem_append,
        List.mem_flatMap, List.not_mem_nil, or_false] at present
      rcases present with rfl | ⟨phrase, -, among⟩ | rfl
      · trivial
      · exact SpanItem.isClean_of_mem_tokens among
      · trivial

theorem SpanItem.spanEnd_not_mem_tokens (phrase : SpanItem) : Token.spanEnd ∉ phrase.tokens := by
  cases phrase with
  | item phrase =>
      intro present
      cases (Item.isClean_and_isSpanMarker present).2
  | occurrence => simp [tokens]

theorem Element.isProper_of_mem_parts {phrase : Element} {part : Part}
    (present : part ∈ phrase.parts) : part.IsProper := by
  cases phrase with
  | item phrase =>
      rcases List.mem_map.1 present with ⟨token, among, rfl⟩
      rintro rfl
      cases (Item.isClean_and_isSpanMarker among).2
  | span inner =>
      rw [List.mem_singleton.1 present]
      simp only [Part.IsProper, List.mem_flatMap, not_exists, not_and]
      exact fun phrase _ => phrase.spanEnd_not_mem_tokens

/-! ### How tokens are written -/

theorem Simple.source_token (phrase : Simple) : phrase.token.source = phrase.written := by
  cases phrase <;> rfl

theorem Simple.flatMap_source_token (phrases : List Simple) :
    (phrases.map token).flatMap Token.source = phrases.flatMap written := by
  rw [List.flatMap_map]
  congr 1
  funext phrase
  exact phrase.source_token

theorem flatMap_source_conditionalTokens (condition : String) (yes no : List Token) :
    (conditionalTokens condition yes no).flatMap Token.source =
      ['/', '?', '|'] ++ condition.toList ++ ['/', 'T', '|'] ++ yes.flatMap Token.source ++
        ['/', 'F', '|'] ++ no.flatMap Token.source ++ ['/', 'E', '?', '|'] := by
  have start : Token.conditionStart.source = ['/', '?', '|'] := rfl
  have whenTrue : Token.whenTrue.source = ['/', 'T', '|'] := rfl
  have whenFalse : Token.whenFalse.source = ['/', 'F', '|'] := rfl
  have ending : Token.conditionEnd.source = ['/', 'E', '?', '|'] := rfl
  have text : (Token.text condition).source = condition.toList := rfl
  simp only [conditionalTokens, List.flatMap_cons, List.flatMap_append, List.flatMap_nil, start,
    whenTrue, whenFalse, ending, text, List.append_assoc, List.append_nil]

theorem Item.flatMap_source_tokens (phrase : Item) :
    phrase.tokens.flatMap Token.source = phrase.written := by
  cases phrase with
  | simple phrase =>
      rw [tokens, List.flatMap_singleton, phrase.source_token]
      rfl
  | tagChoice tag =>
      rw [tokens, List.flatMap_singleton]
      rfl
  | groupChoice group =>
      rw [tokens, List.flatMap_singleton]
      rfl
  | conditional guard yes no =>
      rw [tokens, flatMap_source_conditionalTokens, Simple.flatMap_source_token,
        Simple.flatMap_source_token]
      rfl

theorem SpanItem.flatMap_source_tokens (phrase : SpanItem) :
    phrase.tokens.flatMap Token.source = phrase.written := by
  cases phrase with
  | item phrase => exact phrase.flatMap_source_tokens
  | occurrence => rfl

theorem Element.flatMap_source_parts (phrase : Element) :
    (phrase.parts.flatMap Part.tokens).flatMap Token.source = phrase.written := by
  cases phrase with
  | item phrase =>
      have whole : (phrase.tokens.map Part.plain).flatMap Part.tokens = phrase.tokens := by
        rw [List.flatMap_map]
        exact List.flatMap_singleton' _
      rw [parts, whole]
      exact phrase.flatMap_source_tokens
  | span inner =>
      have start : Token.spanStart.source = ['/', 'I', 'T', 'E', 'R', '|'] := rfl
      have ending : Token.spanEnd.source = ['/', 'E', 'I', 'T', 'E', 'R', '|'] := rfl
      simp only [parts, Part.tokens, List.flatMap_cons, List.flatMap_append, List.flatMap_nil,
        List.append_nil, start, ending, List.flatMap_assoc, SpanItem.flatMap_source_tokens]
      rw [← List.append_assoc]
      rfl

theorem sourceOfParts_parts (elements : List Element) :
    sourceOfParts (elements.flatMap Element.parts) = formatOf elements := by
  rw [sourceOfParts, source, formatOf, List.flatMap_assoc, List.flatMap_assoc]
  congr 2
  funext phrase
  rw [← phrase.flatMap_source_parts, List.flatMap_assoc]

/-! ### Spans are resolved -/

/-- The format of some phrases outside of spans. -/
def written (items : List Item) : String :=
  String.ofList (items.flatMap Item.written)

theorem source_tokens (items : List Item) : source (items.flatMap Item.tokens) = written items := by
  rw [source, List.flatMap_assoc, written]
  congr 2
  funext phrase
  exact phrase.flatMap_source_tokens

theorem plainTokens_parts (elements : List Element) :
    plainTokens (elements.flatMap Element.parts) = (alone elements).flatMap Item.tokens := by
  induction elements with
  | nil => rfl
  | cons phrase elements ih =>
      rw [List.flatMap_cons, plainTokens_append, ih]
      cases phrase with
      | item phrase =>
          rw [Element.parts, plainTokens_map_plain]
          rfl
      | span inner => rfl

theorem Item.flatMap_numbered_tokens (number : Nat) (phrase : Item) :
    phrase.tokens.flatMap (Template.numbered number) = phrase.written := by
  have same : ∀ token ∈ phrase.tokens, Template.numbered number token = token.source := by
    intro token present
    rw [Template.numbered, if_neg]
    rintro rfl
    cases (Item.isClean_and_isSpanMarker present).2
  rw [List.flatMap_congr same, phrase.flatMap_source_tokens]

theorem SpanItem.flatMap_numbered_tokens (number : Nat) (phrase : SpanItem) :
    phrase.tokens.flatMap (Template.numbered number) = (phrase.numbered number).written := by
  cases phrase with
  | item phrase => exact phrase.flatMap_numbered_tokens number
  | occurrence =>
      rw [tokens, List.flatMap_singleton, Template.numbered, if_pos rfl]
      rfl

theorem unwrap_parts (number : Nat) (elements : List Element) :
    (unwrap (elements.flatMap Element.parts)).flatMap (Template.numbered number) =
      (numbered number elements).flatMap Item.written := by
  induction elements with
  | nil => rfl
  | cons phrase elements ih =>
      rw [List.flatMap_cons, unwrap_append, List.flatMap_append, ih]
      cases phrase with
      | item phrase =>
          rw [Element.parts, unwrap_map_plain, phrase.flatMap_numbered_tokens]
          rfl
      | span inner =>
          have inside : (unwrap (Element.span inner).parts).flatMap (Template.numbered number) =
              (inner.map (SpanItem.numbered number)).flatMap Item.written := by
            rw [Element.parts, unwrap_span, List.flatMap_append, List.flatMap_assoc,
              List.flatMap_map]
            simp [SpanItem.flatMap_numbered_tokens, unwrap]
          rw [inside, ← List.flatMap_append]
          rfl

section Stages

variable (elements : List Element)

theorem isClean_of_mem_parts :
    ∀ token ∈ (elements.flatMap Element.parts).flatMap Part.tokens, token.IsClean := by
  intro token present
  rw [List.flatMap_assoc] at present
  rcases List.mem_flatMap.1 present with ⟨phrase, -, among⟩
  exact Element.isClean_of_mem_parts among

theorem isProper_of_mem_parts : ∀ part ∈ elements.flatMap Element.parts, part.IsProper := by
  intro part present
  rcases List.mem_flatMap.1 present with ⟨phrase, -, among⟩
  exact Element.isProper_of_mem_parts among

/-- Without its spans a format is the one of the phrases outside of them. -/
theorem result_stripSpans_formatOf :
    (stripSpans (formatOf elements)).result = .ok (written (alone elements)) := by
  have unwanted : Token.occurrence ∉ plainTokens (elements.flatMap Element.parts) := by
    rw [plainTokens_parts]
    intro present
    rcases List.mem_flatMap.1 present with ⟨phrase, -, among⟩
    cases (Item.isClean_and_isSpanMarker among).2
  rw [← sourceOfParts_parts, result_stripSpans_source (isClean_of_mem_parts elements)
    (isProper_of_mem_parts elements) unwanted, plainTokens_parts, source_tokens]

/-- With its spans unwrapped a format is the one of its numbered phrases. -/
theorem result_numberSpans_formatOf (number : Nat) :
    (numberSpans (formatOf elements) number).result = .ok (written (numbered number elements)) := by
  rw [← sourceOfParts_parts, result_numberSpans_source (isClean_of_mem_parts elements)
    (isProper_of_mem_parts elements), unwrap_parts, written]

end Stages

end Grammar

end Template

end TagOrganizer
