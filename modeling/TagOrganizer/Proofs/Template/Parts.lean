import TagOrganizer.Proofs.Template.Reading
import TagOrganizer.Proofs.Template.Result

/-!
# Parts of written formats

Parts that are written one after the other are read back as parts that come out alike
(`parts?_foldr_attach`): texts that touch each other may be cut differently, but nothing that is
written for the tokens outside of spans, or for all tokens, depends on it. Leaving out or numbering
the spans of a written format therefore gives what was meant (`result_stripSpans_source`,
`result_numberSpans_source`).
-/

namespace TagOrganizer

namespace Template

namespace Part

/-- The tokens of a part as it is written. -/
def tokens : Part → List Token
  | plain token => [token]
  | span inner => Token.spanStart :: (inner ++ [Token.spanEnd])

/-- Whether a part is what it looks like: no span begins in a token, and no span ends in one. -/
def IsProper : Part → Prop
  | plain token => token ≠ Token.spanStart
  | span inner => Token.spanEnd ∉ inner

/-- Puts a text in front of parts; it becomes one with a text that is there. -/
def addText (front : List Char) : List Part → List Part
  | plain (.text written) :: parts =>
      plain (.text (String.ofList (front ++ written.toList))) :: parts
  | parts => if front = [] then parts else plain (.text (String.ofList front)) :: parts

/-- Whether parts come out alike, with spans left out or unwrapped, wherever texts are cut. -/
structure Alike (parts written : List Part) : Prop where
  stripped : ∀ write : Token → List Char, (∀ text, write (.text text) = text.toList) →
    (plainTokens parts).flatMap write = (plainTokens written).flatMap write
  unwrapped : ∀ write : Token → List Char, (∀ text, write (.text text) = text.toList) →
    (unwrap parts).flatMap write = (unwrap written).flatMap write
  occurrence : Token.occurrence ∈ plainTokens parts ↔ Token.occurrence ∈ plainTokens written

end Part

@[simp]
theorem plainTokens_plain (token : Token) (parts : List Part) :
    plainTokens (.plain token :: parts) = token :: plainTokens parts := rfl

@[simp]
theorem plainTokens_span (inner : List Token) (parts : List Part) :
    plainTokens (.span inner :: parts) = plainTokens parts := rfl

@[simp]
theorem unwrap_plain (token : Token) (parts : List Part) :
    unwrap (.plain token :: parts) = token :: unwrap parts := rfl

@[simp]
theorem unwrap_span (inner : List Token) (parts : List Part) :
    unwrap (.span inner :: parts) = inner ++ unwrap parts := rfl

theorem plainTokens_append (front back : List Part) :
    plainTokens (front ++ back) = plainTokens front ++ plainTokens back :=
  List.filterMap_append

theorem plainTokens_map_plain (tokens : List Token) :
    plainTokens (tokens.map Part.plain) = tokens := by
  induction tokens with
  | nil => rfl
  | cons token tokens ih => rw [List.map_cons, plainTokens_plain, ih]

theorem unwrap_append (front back : List Part) :
    unwrap (front ++ back) = unwrap front ++ unwrap back :=
  List.flatMap_append

theorem unwrap_map_plain (tokens : List Token) : unwrap (tokens.map Part.plain) = tokens := by
  induction tokens with
  | nil => rfl
  | cons token tokens ih => rw [List.map_cons, unwrap_plain, ih]

theorem parts?_addText (front : List Char) (tokens : List Token) :
    parts? (Token.addText front tokens) = (parts? tokens).map (Part.addText front) := by
  by_cases empty : front = []
  · have unchanged : Part.addText front = id := by
      funext parts
      rw [empty]
      unfold Part.addText
      split <;> simp
    rw [empty] at unchanged ⊢
    simp [unchanged]
  · cases tokens with
    | nil => simp [Token.addText, parts?, Part.addText, empty]
    | cons token tokens =>
        cases token with
        | text written =>
            simp only [Token.addText, parts?, reduceCtorEq, if_false, Option.map_map]
            rfl
        | spanStart =>
            rw [Token.addText_of_not_isText rfl, if_neg empty]
            simp only [parts?, reduceCtorEq, if_false, if_true]
            split
            · rfl
            · simp only [Option.map_map]
              congr 1
              funext parts
              simp [Part.addText, empty]
        | _ =>
            rw [Token.addText_of_not_isText rfl, if_neg empty]
            simp only [parts?, reduceCtorEq, if_false, Option.map_map]
            congr 1
            funext parts
            simp [Part.addText, empty]

section Text

variable {write : Token → List Char} (asText : ∀ text, write (.text text) = text.toList)
  (front : List Char) (parts : List Part)

include asText

theorem flatMap_plainTokens_addText :
    (plainTokens (Part.addText front parts)).flatMap write =
      front ++ (plainTokens parts).flatMap write := by
  unfold Part.addText
  split
  · simp [asText]
  · by_cases empty : front = [] <;> simp [empty, asText]

theorem flatMap_unwrap_addText :
    (unwrap (Part.addText front parts)).flatMap write =
      front ++ (unwrap parts).flatMap write := by
  unfold Part.addText
  split
  · simp [asText]
  · by_cases empty : front = [] <;> simp [empty, asText]

end Text

theorem occurrence_mem_plainTokens_addText (front : List Char) (parts : List Part) :
    Token.occurrence ∈ plainTokens (Part.addText front parts) ↔
      Token.occurrence ∈ plainTokens parts := by
  unfold Part.addText
  split
  · simp
  · by_cases empty : front = [] <;> simp [empty]

/-- A token outside of spans is read as a part, or becomes one with the text behind it. -/
theorem parts?_attach {token : Token} (unspanned : token ≠ .spanStart) {tokens : List Token}
    {parts written : List Part} (read : parts? tokens = some parts)
    (alike : Part.Alike parts written) :
    ∃ more, parts? (token.attach tokens) = some more ∧
      Part.Alike more (.plain token :: written) := by
  cases kind : token.isText with
  | true =>
      cases token with
      | text text =>
          refine ⟨Part.addText text.toList parts, ?_, ?_, ?_, ?_⟩
          · rw [Token.attach, parts?_addText, read, Option.map_some]
          · intro write asText
            simp [flatMap_plainTokens_addText asText, alike.stripped write asText, asText]
          · intro write asText
            simp [flatMap_unwrap_addText asText, alike.unwrapped write asText, asText]
          · simp [occurrence_mem_plainTokens_addText, alike.occurrence]
      | _ => cases kind
  | false =>
      refine ⟨.plain token :: parts, ?_, ?_, ?_, ?_⟩
      · rw [Token.attach_of_not_isText kind, parts?, if_neg unspanned, read, Option.map_some]
      · intro write asText
        simp [alike.stripped write asText]
      · intro write asText
        simp [alike.unwrapped write asText]
      · simp [alike.occurrence]

theorem parts?_spanStart {inner : List Token} (unended : Token.spanEnd ∉ inner)
    (rest : List Token) :
    parts? (.spanStart :: (inner ++ .spanEnd :: rest)) =
      (parts? rest).map (Part.span inner :: ·) := by
  have broken : breakAt? .spanEnd (inner ++ .spanEnd :: rest) = some (inner, rest) :=
    breakAt?_eq_some_iff.2 ⟨rfl, unended⟩
  rw [parts?, if_pos rfl]
  split
  · rename_i missing
    rw [broken] at missing
    cases missing
  · rename_i found
    rw [broken] at found
    cases found
    rfl

theorem parts?_span {inner : List Token} (unended : Token.spanEnd ∉ inner) {tokens : List Token}
    {parts written : List Part} (read : parts? tokens = some parts)
    (alike : Part.Alike parts written) :
    ∃ more, parts? ((Part.span inner).tokens.foldr Token.attach tokens) = some more ∧
      Part.Alike more (.span inner :: written) := by
  refine ⟨.span (inner.foldr Token.attach []) :: parts, ?_, ?_, ?_, ?_⟩
  · have shape : (Part.span inner).tokens.foldr Token.attach tokens =
        .spanStart :: (inner.foldr Token.attach [] ++ .spanEnd :: tokens) := by
      rw [← foldr_attach_marker rfl]
      simp [Part.tokens, Token.attach]
    have absent : Token.spanEnd ∉ inner.foldr Token.attach [] := by
      rwa [mem_foldr_attach rfl]
    rw [shape, parts?_spanStart absent, read, Option.map_some]
  · intro write asText
    simp [alike.stripped write asText]
  · intro write asText
    simp [flatMap_foldr_attach asText, alike.unwrapped write asText]
  · simp [alike.occurrence]

/-- Parts that are written one after the other are read back as parts that come out alike. -/
theorem parts?_foldr_attach {written : List Part} (proper : ∀ part ∈ written, part.IsProper) :
    ∃ parts, parts? ((written.flatMap Part.tokens).foldr Token.attach []) = some parts ∧
      Part.Alike parts written := by
  induction written with
  | nil => exact ⟨[], by simp [parts?], fun _ _ => rfl, fun _ _ => rfl, Iff.rfl⟩
  | cons part written ih =>
      rcases ih fun other present => proper other (by simp [present]) with ⟨parts, read, alike⟩
      rw [List.flatMap_cons, List.foldr_append]
      cases part with
      | plain token => exact parts?_attach (proper (.plain token) (by simp)) read alike
      | span inner => exact parts?_span (proper (.span inner) (by simp)) read alike

/-! ### Formats that are written part by part -/

/-- What parts are written as, one after the other. -/
def sourceOfParts (written : List Part) : String :=
  source (written.flatMap Part.tokens)

variable {written : List Part}

theorem partsOf_source (clean : ∀ token ∈ written.flatMap Part.tokens, token.IsClean)
    (proper : ∀ part ∈ written, part.IsProper) :
    ∃ parts, partsOf (sourceOfParts written) = .ok parts ∧ Part.Alike parts written := by
  rcases parts?_foldr_attach proper with ⟨parts, read, alike⟩
  refine ⟨parts, ?_, alike⟩
  rw [partsOf, sourceOfParts, tokens_source clean, read]

theorem result_stripSpans_source (clean : ∀ token ∈ written.flatMap Part.tokens, token.IsClean)
    (proper : ∀ part ∈ written, part.IsProper) (unwanted : Token.occurrence ∉ plainTokens written) :
    (stripSpans (sourceOfParts written)).result = .ok (source (plainTokens written)) := by
  rcases partsOf_source clean proper with ⟨parts, read, alike⟩
  rw [result_stripSpans, read, Except.ok_bind, if_neg (alike.occurrence.not.2 unwanted)]
  simp only [source]
  rw [alike.stripped Token.source fun _ => rfl]

theorem result_numberSpans_source (clean : ∀ token ∈ written.flatMap Part.tokens, token.IsClean)
    (proper : ∀ part ∈ written, part.IsProper) (number : Nat) :
    (numberSpans (sourceOfParts written) number).result =
      .ok (String.ofList ((unwrap written).flatMap (numbered number))) := by
  rcases partsOf_source clean proper with ⟨parts, read, alike⟩
  rw [result_numberSpans, read, Except.map_ok, alike.unwrapped (numbered number) fun _ => rfl]

end Template

end TagOrganizer
