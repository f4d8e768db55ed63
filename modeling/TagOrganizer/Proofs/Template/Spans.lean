import Mathlib
import TagOrganizer.Proofs.Template.Seams

/-!
# Iteration spans and their numbers

The spans of a format are closed iff an end marker follows each start marker (`parts?_isSome_iff`),
and what lies outside of them is what stands behind whole parts (`mem_plainTokens_iff`). Where a
number is wanted, the outcome determines it: numbers of equal length cannot be confused with what
stands around them, and numbers of different lengths give outcomes of different lengths
(`flatMap_numbered_eq_iff`).
-/

namespace TagOrganizer

/-- Whether an error says that a format is malformed. -/
def Error.IsMalformedFormat : Error → Prop
  | .unclosedSpan _ => True
  | .unresolvedSpan _ => True
  | .incompleteConditional _ => True
  | _ => False

namespace Template

/-- Whether an end of a span comes behind each start of one. -/
def SpansClose (tokens : List Token) : Prop :=
  ∀ back, Token.spanStart :: back <:+ tokens → Token.spanEnd ∈ back

/-- Whether a marker stands outside of all spans: what is in front of it consists of whole parts. -/
def StandsOutside (marker : Token) (tokens : List Token) : Prop :=
  ∃ (front : List Part) (back : List Token), (∀ part ∈ front, part.IsProper) ∧
    tokens = front.flatMap Part.tokens ++ marker :: back

/-! ### Closed spans -/

@[simp]
theorem spansClose_nil : SpansClose [] := by
  intro back suffix
  cases List.suffix_nil.1 suffix

theorem spansClose_cons_iff {token : Token} {tokens : List Token} :
    SpansClose (token :: tokens) ↔
      (token = .spanStart → Token.spanEnd ∈ tokens) ∧ SpansClose tokens := by
  constructor
  · intro close
    refine ⟨?_, fun back suffix => close back (suffix.trans (List.suffix_cons _ _))⟩
    rintro rfl
    exact close tokens List.suffix_rfl
  · rintro ⟨first, close⟩ back suffix
    rcases List.suffix_cons_iff.1 suffix with same | later
    · rcases List.cons.inj same with ⟨rfl, rfl⟩
      exact first rfl
    · exact close back later

/-- An end closes all spans that begin in front of it. -/
theorem spansClose_append_spanEnd_iff {front back : List Token} :
    SpansClose (front ++ .spanEnd :: back) ↔ SpansClose back := by
  induction front with
  | nil => simp [spansClose_cons_iff]
  | cons token front ih => simp [spansClose_cons_iff, ih]

theorem parts?_isSome_iff (tokens : List Token) :
    (parts? tokens).isSome = true ↔ SpansClose tokens := by
  fun_induction parts? tokens with
  | case1 => simp
  | case2 tokens missing =>
      have unclosed := breakAt?_eq_none_iff.1 missing
      simp [spansClose_cons_iff, unclosed]
  | case3 tokens inner rest broken ih =>
      have split := (breakAt?_eq_some_iff.1 broken).1
      rw [Option.isSome_map, ih, spansClose_cons_iff, split, spansClose_append_spanEnd_iff]
      simp
  | case4 token tokens unspanned ih =>
      rw [Option.isSome_map, ih, spansClose_cons_iff]
      simp [unspanned]

/-! ### Parts -/

theorem isProper_of_mem_parts? {tokens : List Token} {parts : List Part}
    (read : parts? tokens = some parts) : ∀ part ∈ parts, part.IsProper := by
  fun_induction parts? tokens generalizing parts with
  | case1 =>
      cases read
      simp
  | case2 tokens missing => cases read
  | case3 tokens inner rest broken ih =>
      rcases Option.map_eq_some_iff.1 read with ⟨more, found, rfl⟩
      exact List.forall_mem_cons.2 ⟨(breakAt?_eq_some_iff.1 broken).2, ih found⟩
  | case4 token tokens unspanned ih =>
      rcases Option.map_eq_some_iff.1 read with ⟨more, found, rfl⟩
      exact List.forall_mem_cons.2 ⟨unspanned, ih found⟩

/-- Whole parts are read as they are, whatever follows them. -/
theorem parts?_append {written : List Part} (proper : ∀ part ∈ written, part.IsProper)
    (rest : List Token) :
    parts? (written.flatMap Part.tokens ++ rest) = (parts? rest).map (written ++ ·) := by
  induction written with
  | nil => simp
  | cons part written ih =>
      rcases List.forall_mem_cons.1 proper with ⟨first, others⟩
      cases part with
      | plain token =>
          rw [List.flatMap_cons, Part.tokens, List.append_assoc, List.singleton_append, parts?,
            if_neg first, ih others, Option.map_map]
          rfl
      | span inner =>
          have shape : (Part.span inner :: written).flatMap Part.tokens ++ rest =
              .spanStart :: (inner ++ .spanEnd :: (written.flatMap Part.tokens ++ rest)) := by
            simp [Part.tokens]
          rw [shape, parts?_spanStart first, ih others, Option.map_map]
          rfl

/-- Outside of the parts that are spans lies what stands behind whole parts. -/
theorem mem_plainTokens_iff {marker : Token} (unspanned : marker ≠ .spanStart)
    {tokens : List Token} {parts : List Part} (read : parts? tokens = some parts) :
    marker ∈ plainTokens parts ↔ StandsOutside marker tokens := by
  constructor
  · intro present
    rcases List.mem_filterMap.1 present with ⟨part, among, plain⟩
    have same : part = .plain marker := by
      cases part with
      | plain token => simpa using plain
      | span inner => cases plain
    rcases List.append_of_mem (same ▸ among) with ⟨front, back, rfl⟩
    refine ⟨front, back.flatMap Part.tokens, ?_, ?_⟩
    · intro part before
      exact isProper_of_mem_parts? read part (List.mem_append_left _ before)
    · rw [← (flatMap_tokens_of_parts? read).1]
      simp [Part.tokens]
  · rintro ⟨front, back, proper, rfl⟩
    rw [parts?_append proper, parts?, if_neg unspanned, Option.map_map] at read
    rcases Option.map_eq_some_iff.1 read with ⟨more, -, rfl⟩
    simp [plainTokens_append]

/-- Unwrapping spans takes nothing away but their starts and ends. -/
theorem mem_unwrap_iff {marker : Token} (noStart : marker ≠ .spanStart)
    (noEnd : marker ≠ .spanEnd) (parts : List Part) :
    marker ∈ unwrap parts ↔ marker ∈ parts.flatMap Part.tokens := by
  induction parts with
  | nil => simp [unwrap]
  | cons part parts ih => cases part <;> simp [Part.tokens, ih, noStart, noEnd]

/-! ### Numbers in formats -/

variable {number other : Nat}

theorem length_flatMap_numbered_le
    (shorter : (Nat.repr number).toList.length ≤ (Nat.repr other).toList.length)
    (tokens : List Token) :
    (tokens.flatMap (numbered number)).length ≤ (tokens.flatMap (numbered other)).length := by
  induction tokens with
  | nil => simp
  | cons token tokens ih =>
      have first : (numbered number token).length ≤ (numbered other token).length := by
        unfold numbered
        split
        · exact shorter
        · exact le_rfl
      simp only [List.flatMap_cons, List.length_append]
      omega

theorem flatMap_numbered_of_not_mem {tokens : List Token} (absent : Token.occurrence ∉ tokens)
    (number : Nat) : tokens.flatMap (numbered number) = tokens.flatMap Token.source := by
  induction tokens with
  | nil => rfl
  | cons token tokens ih =>
      rw [List.mem_cons, not_or] at absent
      rw [List.flatMap_cons, List.flatMap_cons, ih absent.2, numbered, if_neg (Ne.symm absent.1)]

/-- Where a number is wanted, the outcome determines it. -/
theorem flatMap_numbered_eq_iff (tokens : List Token) :
    tokens.flatMap (numbered number) = tokens.flatMap (numbered other) ↔
      number = other ∨ Token.occurrence ∉ tokens := by
  constructor
  · intro same
    by_cases wanted : Token.occurrence ∈ tokens
    · left
      -- In front of the first place for a number both outcomes are alike.
      rcases List.eq_append_cons_of_mem wanted with ⟨front, back, rfl, fresh⟩
      have written (number : Nat) : numbered number .occurrence = (Nat.repr number).toList :=
        if_pos rfl
      rw [List.flatMap_append, List.flatMap_append, flatMap_numbered_of_not_mem fresh,
        flatMap_numbered_of_not_mem fresh, List.append_cancel_left_eq, List.flatMap_cons,
        List.flatMap_cons, written, written] at same
      have lengths := congrArg List.length same
      rw [List.length_append, List.length_append] at lengths
      have equal : (Nat.repr number).toList.length = (Nat.repr other).toList.length := by
        rcases le_total (Nat.repr number).toList.length (Nat.repr other).toList.length with
          shorter | shorter
        · have rest := length_flatMap_numbered_le shorter back
          omega
        · have rest := length_flatMap_numbered_le shorter back
          omega
      exact Nat.repr_injective (String.toList_injective (List.append_inj_left same equal))
    · exact .inr wanted
  · rintro (rfl | absent)
    · rfl
    · rw [flatMap_numbered_of_not_mem absent, flatMap_numbered_of_not_mem absent]

/-! ### Resolving spans -/

variable {format : String}

theorem partsOf_of_spansClose (close : SpansClose (tokens format)) :
    ∃ parts, parts? (tokens format) = some parts ∧ partsOf format = .ok parts := by
  rcases Option.isSome_iff_exists.1 ((parts?_isSome_iff _).2 close) with ⟨parts, read⟩
  exact ⟨parts, read, by rw [partsOf, read]⟩

theorem partsOf_of_not_spansClose (unclosed : ¬SpansClose (tokens format)) :
    partsOf format = .error (.unclosedSpan format) := by
  rw [← parts?_isSome_iff, Option.not_isSome_iff_eq_none] at unclosed
  rw [partsOf, unclosed]

theorem exists_numberSpans_iff (format : String) (number : Nat) :
    (∃ text, (numberSpans format number).result = .ok text) ↔ SpansClose (tokens format) := by
  rw [result_numberSpans]
  by_cases close : SpansClose (tokens format)
  · rcases partsOf_of_spansClose close with ⟨parts, -, parted⟩
    simp [parted, close]
  · simp [partsOf_of_not_spansClose close, close, Except.map]

theorem stripSpans_eq_error_iff {error : Error} :
    (stripSpans format).result = .error error ↔
      (¬SpansClose (tokens format) ∧ error = .unclosedSpan format) ∨
        (SpansClose (tokens format) ∧ StandsOutside .occurrence (tokens format) ∧
          error = .occurrenceOutsideSpan format) := by
  rw [result_stripSpans]
  by_cases close : SpansClose (tokens format)
  · rcases partsOf_of_spansClose close with ⟨parts, read, parted⟩
    rw [parted, Except.ok_bind, ← mem_plainTokens_iff (by simp) read]
    split
    · rename_i wanted
      simp [close, wanted, eq_comm]
    · rename_i unwanted
      simp [close, unwanted]
  · simp [partsOf_of_not_spansClose close, close, eq_comm]

theorem numberSpans_eq_iff (close : SpansClose (tokens format)) (number other : Nat) :
    (numberSpans format number).result = (numberSpans format other).result ↔
      number = other ∨ Token.occurrence ∉ tokens format := by
  rcases partsOf_of_spansClose close with ⟨parts, read, parted⟩
  rw [result_numberSpans, result_numberSpans, parted, Except.map_ok, Except.map_ok,
    Except.ok.injEq, String.ofList_inj, flatMap_numbered_eq_iff,
    mem_unwrap_iff (by simp) (by simp), (flatMap_tokens_of_parts? read).1]

theorem numberSpans_of_not_mem (unspanned : Token.spanStart ∉ tokens format)
    (unwanted : Token.occurrence ∉ tokens format) (number : Nat) :
    (numberSpans format number).result = .ok format := by
  rw [result_numberSpans, partsOf, parts?_of_spanStart_not_mem unspanned]
  simp only [Except.map_ok, unwrap_map_plain, flatMap_numbered_of_not_mem unwanted]
  exact congrArg Except.ok (source_tokens_eq format)

/--
A format can be numbered iff an end follows each start of a span, and otherwise it is malformed,
also if its spans are to be left out. They are left out unless a number is wanted outside of them.
Formats in which a number is wanted come out differently for different numbers. A format without
spans and numbers comes out as it is.
-/
theorem numberSpans_ok_iff_and_eq_iff (format : String) :
    (∀ number, (∃ text, (numberSpans format number).result = .ok text) ↔
      SpansClose (tokens format)) ∧
    (SpansClose (tokens format) ↔
      ∀ error, (stripSpans format).result = .error error → ¬error.IsMalformedFormat) ∧
    (SpansClose (tokens format) →
      ((stripSpans format).result = .error (.occurrenceOutsideSpan format) ↔
        StandsOutside .occurrence (tokens format)) ∧
      ∀ number other,
        ((numberSpans format number).result = (numberSpans format other).result ↔
          number = other ∨ Token.occurrence ∉ tokens format)) ∧
    (Token.spanStart ∉ tokens format → Token.occurrence ∉ tokens format →
      (stripSpans format).result = .ok format ∧
        ∀ number, (numberSpans format number).result = .ok format) := by
  refine ⟨exists_numberSpans_iff format, ?_, ?_, ?_⟩
  · constructor
    · intro close error failed malformed
      rcases stripSpans_eq_error_iff.1 failed with ⟨unclosed, -⟩ | ⟨-, -, rfl⟩
      · exact unclosed close
      · exact malformed
    · intro proper
      by_contra unclosed
      have failed := stripSpans_eq_error_iff.2 (.inl ⟨unclosed, rfl⟩)
      exact proper _ failed trivial
  · intro close
    refine ⟨?_, numberSpans_eq_iff close⟩
    simp [stripSpans_eq_error_iff, close]
  · intro unspanned unwanted
    exact ⟨(result_stripSpans_eq_ok_self_iff format).2 ⟨unwanted, unspanned⟩,
      numberSpans_of_not_mem unspanned unwanted⟩

/-- A number is wanted in a span and outside of it, and an end of a span is left over. -/
theorem numberSpans_ok_iff_and_eq_iff_stray :
    let format := "1/ITER|/#|/EITER|1/EITER|/#|"
    (numberSpans format 1).result = .ok "111/EITER|1" ∧ SpansClose (tokens format) ∧
      (stripSpans format).result = .error (.occurrenceOutsideSpan format) ∧
      StandsOutside .occurrence (tokens format) ∧
      (numberSpans format 1).result ≠ (numberSpans format 11).result ∧
      Token.spanStart ∉ tokens "a/EITER|" ∧ Token.occurrence ∉ tokens "a/EITER|" ∧
      (stripSpans "a/EITER|").result = .ok "a/EITER|" := by
  intro format
  have numbered : (numberSpans format 1).result = .ok "111/EITER|1" := by cbv
  have refused : (stripSpans format).result = .error (.occurrenceOutsideSpan format) := by cbv
  have wanted : Token.occurrence ∈ tokens format := by
    have read : tokens format = [.text "1", .spanStart, .occurrence, .spanEnd, .text "1", .spanEnd,
        .occurrence] := by cbv
    simp [read]
  have read : tokens "a/EITER|" = [.text "a", .spanEnd] := by cbv
  have unspanned : Token.spanStart ∉ tokens "a/EITER|" := by simp [read]
  have unwanted : Token.occurrence ∉ tokens "a/EITER|" := by simp [read]
  rcases numberSpans_ok_iff_and_eq_iff format with ⟨succeeds, -, ofClose, -⟩
  have close := (succeeds 1).1 ⟨_, numbered⟩
  rcases ofClose close with ⟨outside, faithful⟩
  have different : (numberSpans format 1).result ≠ (numberSpans format 11).result := by
    rw [ne_eq, faithful 1 11]
    simp [wanted]
  have kept := (numberSpans_ok_iff_and_eq_iff "a/EITER|").2.2.2 unspanned unwanted
  exact ⟨numbered, close, refused, outside.1 refused, different, unspanned, unwanted, kept.1⟩

end Template

end TagOrganizer
