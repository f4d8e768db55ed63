import Mathlib
import TagOrganizer.Proofs.Template.Normal
import TagOrganizer.Proofs.Template.Parts

/-!
# Seams of resolved formats

Where spans of a format are left out or unwrapped, texts come to stand next to each other, and they
are read again as if they had always been one. A marker is read in what is written for some tokens
if it is one of them, or if texts that stand next to each other spell it (`mem_tokens_source_iff`).
Resolving the spans of a format leaves no markers of spans behind exactly if nothing is spelled at
the seams (`resolved_iff_not_spelled`); nothing prevents that (`spelled_at_seams`).
-/

namespace TagOrganizer

namespace Template

/-- Whether texts that stand next to each other spell a marker. -/
def Spelled (marker : Token) (written : List Token) : Prop :=
  ∃ words : List String, words.map Token.text <:+: written ∧
    marker.source <:+: words.flatMap String.toList

/-! ### Reading around a marker -/

theorem IsNormal.append_marker {front back : List Token} {marker : Token}
    (normalFront : IsNormal front) (normalBack : IsNormal back) (kind : marker.isText = false)
    (clean : marker.IsClean) : IsNormal (front ++ marker :: back) := by
  have normal := normalBack.marker_cons kind clean
  constructor
  · intro token present
    rcases List.mem_append.1 present with inFront | inBack
    · exact normalFront.each token inFront
    · exact normal.each token inBack
  · refine List.isChain_append.2 ⟨normalFront.apart, normal.apart, ?_⟩
    intro last _ first present
    rw [List.head?_cons, Option.mem_some_iff] at present
    rw [← present]
    exact .inr kind

/-- What stands in front of a marker is read apart from the marker and what follows it. -/
theorem tokensFrom_append_marker {marker : Token} (kind : marker.isText = false)
    (clean : marker.IsClean) (front back : List Char) :
    tokensFrom [] (front ++ (marker.source ++ back)) =
      tokensFrom [] front ++ marker :: tokensFrom [] back := by
  have normalFront : IsNormal (tokensFrom [] front) := isNormal_tokensFrom (unpierced_nil front)
  have normalBack : IsNormal (tokensFrom [] back) := isNormal_tokensFrom (unpierced_nil back)
  have read := (normalFront.append_marker normalBack kind clean).tokensFrom_source
  simpa [flatMap_source_tokensFrom] using read

/-- A marker is read wherever it is written. -/
theorem mem_tokensFrom_iff {marker : Token} (kind : marker.isText = false)
    (clean : marker.IsClean) (text : List Char) :
    marker ∈ tokensFrom [] text ↔ marker.source <:+: text := by
  constructor
  · intro present
    rcases List.append_of_mem present with ⟨front, back, split⟩
    have whole := flatMap_source_tokensFrom [] text
    rw [split] at whole
    exact ⟨front.flatMap Token.source, back.flatMap Token.source, by simpa using whole⟩
  · rintro ⟨front, back, rfl⟩
    rw [List.append_assoc, tokensFrom_append_marker kind clean]
    simp

/-! ### Reading what is written -/

/-- A part that does not hold an element lies on one side of it. -/
theorem infix_append_cons_iff {α : Type} {part front back : List α} {element : α}
    (free : element ∉ part) :
    part <:+: front ++ element :: back ↔ part <:+: front ∨ part <:+: back := by
  constructor
  · rintro ⟨before, after, whole⟩
    rw [List.append_assoc] at whole
    rcases List.append_eq_append_iff.1 whole with ⟨more, rfl, behind⟩ | ⟨more, rfl, behind⟩
    · -- The part begins in front of the element, so it also ends there.
      rcases List.append_eq_append_iff.1 behind with ⟨rest, rfl, -⟩ | ⟨rest, rfl, ahead⟩
      · exact .inl ⟨before, rest, by simp⟩
      · cases rest with
        | nil => exact .inl ⟨before, [], by simp⟩
        | cons first rest =>
            have same := (List.cons.inj ahead).1
            exact absurd (by simp [same]) free
    · cases more with
      | nil =>
          cases part with
          | nil => exact .inl (List.nil_infix)
          | cons first part =>
              have same := (List.cons.inj behind).1
              exact absurd (by simp [same]) free
      | cons first more =>
          refine .inr ⟨more, after, ?_⟩
          simpa using (List.cons.inj behind).2.symm
  · rintro (inside | inside)
    · exact inside.trans (List.infix_append' [] front _)
    · exact inside.trans ⟨front ++ [element], [], by simp⟩

theorem not_mem_map_text {marker : Token} (kind : marker.isText = false)
    (words : List String) : marker ∉ words.map Token.text := by
  intro present
  rcases List.mem_map.1 present with ⟨word, -, rfl⟩
  cases kind

theorem spelled_append_marker_iff (marker : Token) {other : Token} (kind : other.isText = false)
    (front back : List Token) :
    Spelled marker (front ++ other :: back) ↔ Spelled marker front ∨ Spelled marker back := by
  unfold Spelled
  simp only [infix_append_cons_iff (not_mem_map_text kind _), or_and_right, exists_or]

theorem flatMap_source_map_text (words : List String) :
    (words.map Token.text).flatMap Token.source = words.flatMap String.toList := by
  rw [List.flatMap_map]
  rfl

/-- Texts spell a marker if it is written somewhere in all of them together. -/
theorem spelled_map_text_iff (marker : Token) (words : List String) :
    Spelled marker (words.map Token.text) ↔ marker.source <:+: words.flatMap String.toList := by
  constructor
  · rintro ⟨some, ⟨front, back, whole⟩, written⟩
    refine written.trans ⟨front.flatMap Token.source, back.flatMap Token.source, ?_⟩
    rw [← flatMap_source_map_text, ← flatMap_source_map_text, ← whole]
    simp
  · intro written
    exact ⟨words, List.infix_rfl, written⟩

/-- Whether the markers among tokens are read back as they are written. -/
def MarkersClean (written : List Token) : Prop :=
  ∀ token ∈ written, token.isText = false → token.IsClean

theorem mem_tokensFrom_flatMap_iff {marker : Token} (kind : marker.isText = false)
    (clean : marker.IsClean) {written : List Token} (markers : MarkersClean written)
    (words : List String) :
    marker ∈ tokensFrom [] ((words.map Token.text ++ written).flatMap Token.source) ↔
      marker ∈ written ∨ Spelled marker (words.map Token.text ++ written) := by
  induction written generalizing words with
  | nil =>
      rw [List.append_nil, flatMap_source_map_text, mem_tokensFrom_iff kind clean,
        spelled_map_text_iff]
      simp
  | cons token written ih =>
      have later := ih fun other present => markers other (by simp [present])
      cases shape : token.isText with
      | true =>
          cases token with
          | text word =>
              -- The text joins those in front of it.
              have joined : words.map Token.text ++ .text word :: written =
                  (words ++ [word]).map Token.text ++ written := by simp
              have different : marker ≠ .text word := by
                rintro rfl
                cases kind
              rw [joined, later]
              simp [different]
          | _ => cases shape
      | false =>
          have proper := markers token (by simp) shape
          have rest := later []
          simp only [List.map_nil, List.nil_append] at rest
          rw [List.flatMap_append, List.flatMap_cons, flatMap_source_map_text,
            tokensFrom_append_marker shape proper, spelled_append_marker_iff marker shape,
            spelled_map_text_iff, List.mem_append, List.mem_cons, List.mem_cons,
            mem_tokensFrom_iff kind clean, rest]
          tauto

/-- A marker is read in what is written if it has been written, or if texts spell it. -/
theorem mem_tokens_source_iff {marker : Token} (kind : marker.isText = false)
    (clean : marker.IsClean) {written : List Token} (markers : MarkersClean written) :
    marker ∈ tokens (source written) ↔ marker ∈ written ∨ Spelled marker written := by
  have read := mem_tokensFrom_flatMap_iff kind clean markers []
  simpa [tokens, source] using read

/-- Texts without slashes spell no marker. -/
theorem not_spelled_of_slashless {marker : Token} (kind : marker.isText = false)
    (clean : marker.IsClean) {written : List Token}
    (slashless : ∀ word, Token.text word ∈ written → '/' ∉ word.toList) :
    ¬ Spelled marker written := by
  rintro ⟨words, inside, spelled⟩
  rcases Token.exists_source_eq kind clean with ⟨head, body, ending, shape, -⟩
  have slash : '/' ∈ words.flatMap String.toList := spelled.subset (by simp [shape])
  rcases List.mem_flatMap.1 slash with ⟨word, present, inWord⟩
  exact slashless word (inside.subset (List.mem_map_of_mem present)) inWord

/-! ### Parts of a format -/

/-- The parts of a format hold its tokens, and outside of spans no span begins. -/
theorem flatMap_tokens_of_parts? {tokens : List Token} {parts : List Part}
    (read : parts? tokens = some parts) :
    parts.flatMap Part.tokens = tokens ∧ Token.spanStart ∉ plainTokens parts := by
  fun_induction parts? tokens generalizing parts with
  | case1 =>
      cases read
      exact ⟨rfl, by simp [plainTokens]⟩
  | case2 tokens missing => cases read
  | case3 tokens inner rest broken ih =>
      rcases Option.map_eq_some_iff.1 read with ⟨more, found, rfl⟩
      rcases ih found with ⟨held, unspanned⟩
      refine ⟨?_, by simpa using unspanned⟩
      rw [List.flatMap_cons, held, (breakAt?_eq_some_iff.1 broken).1]
      simp [Part.tokens]
  | case4 token tokens unspanned ih =>
      rcases Option.map_eq_some_iff.1 read with ⟨more, found, rfl⟩
      rcases ih found with ⟨held, others⟩
      refine ⟨?_, by simp [Ne.symm unspanned, others]⟩
      rw [List.flatMap_cons, held]
      rfl

theorem parts?_of_spanStart_not_mem {tokens : List Token} (unspanned : Token.spanStart ∉ tokens) :
    parts? tokens = some (tokens.map Part.plain) := by
  induction tokens with
  | nil => simp [parts?]
  | cons token tokens ih =>
      rw [List.mem_cons, not_or] at unspanned
      rw [parts?, if_neg (Ne.symm unspanned.1), ih unspanned.2]
      rfl

theorem plainTokens_sublist (parts : List Part) :
    (plainTokens parts).Sublist (parts.flatMap Part.tokens) := by
  induction parts with
  | nil => exact List.Sublist.refl _
  | cons part parts ih =>
      cases part with
      | plain token => exact ih.cons_cons token
      | span inner => exact ih.trans (List.sublist_append_right _ _)

theorem unwrap_sublist (parts : List Part) :
    (unwrap parts).Sublist (parts.flatMap Part.tokens) := by
  induction parts with
  | nil => exact List.Sublist.refl _
  | cons part parts ih =>
      cases part with
      | plain token => exact ih.cons_cons token
      | span inner =>
          rw [unwrap_span, List.flatMap_cons]
          exact ((List.sublist_append_left _ _).cons _).append ih

/-- A format from which leaving out spans takes nothing away has none. -/
theorem plainTokens_eq_of_flatMap_source_eq {parts : List Part}
    (same : (plainTokens parts).flatMap Token.source =
      (parts.flatMap Part.tokens).flatMap Token.source) :
    plainTokens parts = parts.flatMap Part.tokens := by
  induction parts with
  | nil => rfl
  | cons part parts ih =>
      cases part with
      | plain token =>
          simp only [plainTokens_plain, List.flatMap_cons, Part.tokens, List.flatMap_append,
            List.flatMap_nil, List.append_nil, List.append_cancel_left_eq] at same ⊢
          rw [ih same]
          rfl
      | span inner =>
          have fewer := ((plainTokens_sublist parts).flatMap Token.source).length_le
          have more := congrArg List.length same
          have filled : 0 < Token.spanStart.source.length := by decide
          simp only [plainTokens_span, List.flatMap_cons, Part.tokens, List.flatMap_append,
            List.length_append, List.cons_append] at more
          omega

variable {format : String} {parts : List Part}

theorem parts?_of_partsOf (read : partsOf format = .ok parts) :
    parts? (tokens format) = some parts := by
  unfold partsOf at read
  split at read
  · rename_i found
    cases read
    exact found
  · cases read

theorem markersClean_tokens (format : String) : MarkersClean (tokens format) := by
  intro token present marker
  exact (Token.isNormal_iff_of_not_isText marker).1 ((isNormal_tokens format).each token present)

theorem result_stripSpans_eq_ok_self_iff (format : String) :
    (stripSpans format).result = .ok format ↔
      Token.occurrence ∉ tokens format ∧ Token.spanStart ∉ tokens format := by
  rw [result_stripSpans]
  constructor
  · intro kept
    rcases Except.bind_eq_ok_iff.1 kept with ⟨parts, read, kept⟩
    split at kept
    · cases kept
    · rename_i unwanted
      rcases flatMap_tokens_of_parts? (parts?_of_partsOf read) with ⟨held, unspanned⟩
      have whole : source (plainTokens parts) = source (parts.flatMap Part.tokens) := by
        rw [held, source_tokens_eq]
        exact Except.ok.inj kept
      have same := plainTokens_eq_of_flatMap_source_eq (String.ofList_injective whole)
      rw [held] at same
      rw [← same]
      exact ⟨unwanted, unspanned⟩
  · rintro ⟨unwanted, unspanned⟩
    rw [partsOf, parts?_of_spanStart_not_mem unspanned]
    simp only [Except.ok_bind, plainTokens_map_plain, if_neg unwanted, source_tokens_eq]

/-! ### What resolving leaves behind -/

theorem isClean_occurrence : Token.IsClean .occurrence := trivial

theorem isClean_spanStart : Token.IsClean .spanStart := trivial

/-- A token as it is meant for an occurrence with the given number. -/
def Token.forOccurrence (number : Nat) (token : Token) : Token :=
  if token = .occurrence then .text (Nat.repr number) else token

theorem Token.source_forOccurrence (number : Nat) (token : Token) :
    (token.forOccurrence number).source = numbered number token := by
  unfold forOccurrence numbered
  split
  · rfl
  · rfl

theorem occurrence_not_mem_map_forOccurrence (number : Nat) (written : List Token) :
    Token.occurrence ∉ written.map (Token.forOccurrence number) := by
  intro present
  rcases List.mem_map.1 present with ⟨token, -, same⟩
  unfold Token.forOccurrence at same
  split at same
  · cases same
  · rename_i different
    exact different same

theorem MarkersClean.map_forOccurrence {written : List Token} (markers : MarkersClean written)
    (number : Nat) : MarkersClean (written.map (Token.forOccurrence number)) := by
  intro token present kind
  rcases List.mem_map.1 present with ⟨original, among, rfl⟩
  unfold Token.forOccurrence at kind ⊢
  split at kind
  · cases kind
  · rename_i different
    rw [if_neg different]
    exact markers original among kind

/--
Leaving out the spans of a format leaves neither spans nor places for numbers, and is done once and
for all, exactly if the texts that come to stand next to each other do not spell the beginning of a
span or a place for a number. Numbering the spans leaves no place for a number exactly if the texts
and numbers that come to stand next to each other do not spell one.
-/
theorem resolved_iff_not_spelled (read : partsOf format = .ok parts) :
    (∀ stripped, (stripSpans format).result = .ok stripped →
      ((Token.occurrence ∉ tokens stripped ∧ Token.spanStart ∉ tokens stripped ∧
          (stripSpans stripped).result = .ok stripped) ↔
        ¬ Spelled .occurrence (plainTokens parts) ∧ ¬ Spelled .spanStart (plainTokens parts))) ∧
      ∀ number unwrapped, (numberSpans format number).result = .ok unwrapped →
        (Token.occurrence ∉ tokens unwrapped ↔
          ¬ Spelled .occurrence ((unwrap parts).map (Token.forOccurrence number))) := by
  rcases flatMap_tokens_of_parts? (parts?_of_partsOf read) with ⟨held, unspanned⟩
  have markers : MarkersClean (parts.flatMap Part.tokens) := by
    rw [held]
    exact markersClean_tokens format
  constructor
  · intro stripped left
    rw [result_stripSpans, read, Except.ok_bind] at left
    split at left
    · cases left
    · rename_i unwanted
      have plain : MarkersClean (plainTokens parts) := fun token present =>
        markers token ((plainTokens_sublist parts).subset present)
      cases left
      have numbers : Token.occurrence ∈ tokens (source (plainTokens parts)) ↔
          Token.occurrence ∈ plainTokens parts ∨ Spelled .occurrence (plainTokens parts) :=
        mem_tokens_source_iff rfl isClean_occurrence plain
      have spans : Token.spanStart ∈ tokens (source (plainTokens parts)) ↔
          Token.spanStart ∈ plainTokens parts ∨ Spelled .spanStart (plainTokens parts) :=
        mem_tokens_source_iff rfl isClean_spanStart plain
      rw [result_stripSpans_eq_ok_self_iff, numbers, spans, or_iff_right unwanted,
        or_iff_right unspanned]
      exact ⟨fun left => ⟨left.1, left.2.1⟩, fun free => ⟨free.1, free.2, free⟩⟩
  · intro number unwrapped left
    rw [result_numberSpans, read, Except.map_ok, Except.ok.injEq] at left
    have inside : MarkersClean (unwrap parts) := fun token present =>
      markers token ((unwrap_sublist parts).subset present)
    have written : unwrapped = source ((unwrap parts).map (Token.forOccurrence number)) := by
      rw [← left, source, List.flatMap_map]
      simp only [Token.source_forOccurrence]
    rw [written, mem_tokens_source_iff rfl isClean_occurrence (inside.map_forOccurrence number),
      or_iff_right (occurrence_not_mem_map_forOccurrence number _)]

/-- A span between two words, and a number in it. -/
theorem resolved_iff_not_spelled_trip :
    let parts := [.plain (.text "a "), .span [.occurrence], .plain (.text "b")]
    partsOf "a /ITER|/#|/EITER|b" = .ok parts ∧
      (stripSpans "a /ITER|/#|/EITER|b").result = .ok "a b" ∧
      Token.occurrence ∉ tokens "a b" ∧ (stripSpans "a b").result = .ok "a b" ∧
      (numberSpans "a /ITER|/#|/EITER|b" 2).result = .ok "a 2b" ∧
      Token.occurrence ∉ tokens "a 2b" := by
  intro parts
  have read : partsOf "a /ITER|/#|/EITER|b" = .ok parts := by cbv
  have stripped : (stripSpans "a /ITER|/#|/EITER|b").result = .ok "a b" := by cbv
  have unwrapped : (numberSpans "a /ITER|/#|/EITER|b" 2).result = .ok "a 2b" := by cbv
  have slashless : ∀ tokens : List Token, (∀ token ∈ tokens, '/' ∉ token.source) →
      ¬ Spelled .occurrence tokens ∧ ¬ Spelled .spanStart tokens := by
    intro tokens free
    exact ⟨not_spelled_of_slashless rfl isClean_occurrence fun word present => free _ present,
      not_spelled_of_slashless rfl isClean_spanStart fun word present => free _ present⟩
  rcases resolved_iff_not_spelled read with ⟨leftOut, numbered⟩
  rcases (leftOut _ stripped).2 (slashless _ (by decide)) with ⟨unwanted, -, again⟩
  have fresh := (numbered 2 _ unwrapped).2 (slashless _ (by decide)).1
  exact ⟨read, stripped, unwanted, again, unwrapped, fresh⟩

/-- Texts at the two ends of a span, or inside and behind it, spell a place for a number. -/
theorem spelled_at_seams :
    (stripSpans "//ITER|x/EITER|#|").result = .ok "/#|" ∧
      (numberSpans "//ITER|#/EITER||" 1).result = .ok "/#|" ∧
      Token.occurrence ∈ tokens "/#|" ∧
      (stripSpans "/#|").result = .error (.occurrenceOutsideSpan "/#|") := by
  have read : tokens "/#|" = [.occurrence] := by cbv
  rw [read]
  exact ⟨by cbv, by cbv, by simp, by cbv⟩

end Template

end TagOrganizer
