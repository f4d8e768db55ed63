import TagOrganizer.Proofs.Selection.Reading

/-!
# Grammar of conditions

How conditions and condition sets are written: `Condition.Written` relates a condition to its one
written form. Reading accepts exactly what is written, and what has been read is written again as it
was; of a condition set only the empty fragments are lost, which mean nothing.
-/

namespace TagOrganizer

namespace Condition

/-- How a condition that is not negated is written. -/
inductive PlainlyWritten : String → Condition → Prop where
  | all : PlainlyWritten "/*|" .all
  | group {name : String} (filled : name ≠ "") (slashless : '/' ∉ name.toList) :
      PlainlyWritten ("/G|" ++ name) (.group name)
  | category {name : String} (filled : name ≠ "") (slashless : '/' ∉ name.toList) :
      PlainlyWritten ("/C|" ++ name) (.category name)
  | tag {name : String} (filled : name ≠ "") (slashless : '/' ∉ name.toList) :
      PlainlyWritten name (.tag name)

/-- How a condition is written, with at most one negation. -/
inductive Written : String → Condition → Prop where
  | plain {text : String} {condition : Condition} (written : PlainlyWritten text condition) :
      Written text condition
  | negated {text : String} {condition : Condition} (written : PlainlyWritten text condition) :
      Written ("/!|" ++ text) (.not condition)

/-- Whether a condition is not negated and has a name that can be written, if it has one. -/
def IsPlain : Condition → Prop
  | tag name => name ≠ "" ∧ '/' ∉ name.toList
  | group name => name ≠ "" ∧ '/' ∉ name.toList
  | category name => name ≠ "" ∧ '/' ∉ name.toList
  | all => True
  | not _ => False

/-- Whether a condition can be written: it is negated at most once. -/
def IsProper : Condition → Prop
  | not condition => condition.IsPlain
  | condition => condition.IsPlain

variable {text : String} {condition : Condition}

/-! ### Writing -/

theorem PlainlyWritten.text_eq (written : PlainlyWritten text condition) :
    condition.text = text := by
  rw [← String.toList_inj, Condition.text, String.toList_ofList]
  cases written with
  | all => rfl
  | group _ _ => simp [chars, groupMark]
  | category _ _ => simp [chars, categoryMark]
  | tag _ _ => rfl

theorem Written.text_eq (written : Written text condition) : condition.text = text := by
  cases written with
  | plain written => exact written.text_eq
  | @negated text condition written =>
      have inner := written.text_eq
      rw [← String.toList_inj, Condition.text, String.toList_ofList] at inner ⊢
      simp [chars, notMark, inner]

theorem plainlyWritten_text (plain : condition.IsPlain) :
    PlainlyWritten condition.text condition := by
  cases condition with
  | tag name =>
      have written : PlainlyWritten name (.tag name) := .tag plain.1 plain.2
      rwa [written.text_eq]
  | group name =>
      have written : PlainlyWritten ("/G|" ++ name) (.group name) := .group plain.1 plain.2
      rwa [written.text_eq]
  | category name =>
      have written : PlainlyWritten ("/C|" ++ name) (.category name) := .category plain.1 plain.2
      rwa [written.text_eq]
  | all => exact .all
  | not condition => cases plain

theorem written_text (proper : condition.IsProper) : Written condition.text condition := by
  cases condition with
  | not condition =>
      have written : Written ("/!|" ++ condition.text) (.not condition) :=
        .negated (plainlyWritten_text proper)
      rwa [written.text_eq]
  | _ => exact .plain (plainlyWritten_text proper)

/-! ### Reading -/

/-- A mark, which begins with a slash, is no beginning of a name. -/
theorem stripFront?_of_not_mem {name : List Char} (slashless : '/' ∉ name) (mark : List Char) :
    Text.stripFront? ('/' :: mark) name = none := by
  rw [Option.eq_none_iff_forall_ne_some]
  intro rest stripped
  apply slashless
  rw [Text.stripFront?_eq_some_iff.1 stripped]
  simp

theorem ofName?_eq_some_iff {build : String → Condition} {name : List Char} :
    ofName? build name = some condition ↔
      (name ≠ [] ∧ '/' ∉ name) ∧ build (String.ofList name) = condition := by
  rw [← isName_iff, ofName?]
  split <;> simp_all

theorem eq_append_of_stripFront? (mark : String) {rest : List Char}
    (stripped : Text.stripFront? mark.toList text.toList = some rest) :
    text = mark ++ String.ofList rest := by
  rw [← String.toList_inj, String.toList_append, String.toList_ofList]
  exact Text.stripFront?_eq_some_iff.1 stripped

theorem plainlyWritten_of_ofBody? (read : ofBody? text.toList = some condition) :
    PlainlyWritten text condition := by
  unfold ofBody? at read
  split at read
  · rename_i whole
    cases read
    have literal : text = "/*|" := String.toList_inj.1 whole
    rw [literal]
    exact .all
  · split at read
    · rename_i name stripped
      rcases ofName?_eq_some_iff.1 read with ⟨proper, rfl⟩
      rw [eq_append_of_stripFront? "/G|" stripped]
      exact .group (by simpa using proper.1) (by simpa using proper.2)
    · split at read
      · rename_i name stripped
        rcases ofName?_eq_some_iff.1 read with ⟨proper, rfl⟩
        rw [eq_append_of_stripFront? "/C|" stripped]
        exact .category (by simpa using proper.1) (by simpa using proper.2)
      · rcases ofName?_eq_some_iff.1 read with ⟨proper, rfl⟩
        rw [String.ofList_toList]
        exact .tag (by simpa using proper.1) proper.2

theorem PlainlyWritten.ofBody?_eq (written : PlainlyWritten text condition) :
    ofBody? text.toList = some condition := by
  cases written with
  | all => rfl
  | @group name filled slashless =>
      have proper : isName name.toList = true := isName_iff.2 ⟨by simpa using filled, slashless⟩
      simp [ofBody?, allMark, groupMark, Text.stripFront?, ofName?, proper]
  | @category name filled slashless =>
      have proper : isName name.toList = true := isName_iff.2 ⟨by simpa using filled, slashless⟩
      simp [ofBody?, allMark, groupMark, categoryMark, Text.stripFront?, ofName?, proper]
  | tag filled slashless =>
      have proper : isName text.toList = true := isName_iff.2 ⟨by simpa using filled, slashless⟩
      have different : text.toList ≠ allMark := by
        intro same
        rw [same] at slashless
        exact slashless (by decide)
      simp [ofBody?, different, groupMark, categoryMark, stripFront?_of_not_mem slashless,
        ofName?, proper]

theorem PlainlyWritten.stripFront?_notMark (written : PlainlyWritten text condition) :
    Text.stripFront? notMark text.toList = none := by
  cases written with
  | all => rfl
  | group _ _ => simp [notMark, Text.stripFront?]
  | category _ _ => simp [notMark, Text.stripFront?]
  | tag _ slashless => exact stripFront?_of_not_mem slashless _

theorem parse_eq_ok_iff : parse text = .ok condition ↔ Written text condition := by
  have read : ofChars? text.toList = some condition ↔ Written text condition := by
    constructor
    · intro read
      unfold ofChars? at read
      split at read
      · rename_i body stripped
        rcases Option.map_eq_some_iff.1 read with ⟨inner, read, rfl⟩
        rw [eq_append_of_stripFront? "/!|" stripped]
        apply Written.negated
        apply plainlyWritten_of_ofBody?
        rwa [String.toList_ofList]
      · exact .plain (plainlyWritten_of_ofBody? read)
    · rintro (written | written)
      · rw [ofChars?, written.stripFront?_notMark]
        exact written.ofBody?_eq
      · simp [ofChars?, notMark, Text.stripFront?, written.ofBody?_eq]
  rw [← read, parse]
  cases ofChars? text.toList <;> simp

theorem parse_of_not_written (unwritten : ¬∃ condition, Written text condition) :
    parse text = .error (.malformedCondition text) := by
  cases read : parse text with
  | ok condition => exact absurd ⟨condition, parse_eq_ok_iff.1 read⟩ unwritten
  | error error =>
      unfold parse at read
      split at read <;> cases read
      rfl

/-- No slash of a condition has a sign behind it that the delimiter of condition sets has. -/
theorem PlainlyWritten.not_infix (written : PlainlyWritten text condition) :
    ¬ConditionSet.delimiter <:+: text.toList := by
  have slash_mem : '/' ∈ ConditionSet.delimiter := by decide
  cases written with
  | all => decide
  | group _ slashless =>
      simp [ConditionSet.delimiter, List.infix_cons_iff]
      exact fun inside => slashless (inside.subset slash_mem)
  | category _ slashless =>
      simp [ConditionSet.delimiter, List.infix_cons_iff]
      exact fun inside => slashless (inside.subset slash_mem)
  | tag _ slashless => exact fun inside => slashless (inside.subset slash_mem)

theorem Written.not_infix (written : Written text condition) :
    ¬ConditionSet.delimiter <:+: text.toList := by
  cases written with
  | plain written => exact written.not_infix
  | @negated text condition written =>
      have inner := written.not_infix
      simpa [ConditionSet.delimiter, List.infix_cons_iff] using inner

end Condition

namespace ConditionSet

/-- A text joined from fragments that have no delimiter in them. -/
structure IsJoined (pieces : List (List Char)) (text : String) : Prop where
  filled : pieces ≠ []
  joined : delimiter.intercalate pieces = text.toList
  apart : ∀ piece ∈ pieces, ¬delimiter <:+: piece

variable {text : String} {set : ConditionSet}

theorem isJoined_fragments (text : String) : IsJoined (fragments text) text where
  filled := Text.fragments_ne_nil _ _ _
  joined := Text.join_fragments _ _ _
  apart := fun _ present => Text.not_infix_of_mem_fragments present

/-- There is one way to join a text from fragments. -/
theorem IsJoined.fragments_eq {pieces : List (List Char)} (whole : IsJoined pieces text) :
    fragments text = pieces := by
  rw [fragments, ← whole.joined]
  exact Text.fragments_intercalate (by decide) whole.filled whole.apart

theorem map_toList_pieces (text : String) :
    (pieces text).map String.toList = (fragments text).filter fun piece => !piece.isEmpty := by
  simp [pieces, Function.comp_def]

theorem mem_pieces {text piece : String} :
    piece ∈ pieces text ↔ piece.toList ∈ fragments text ∧ piece.toList ≠ [] := by
  simp only [pieces, List.mem_map, List.mem_filter, Bool.not_eq_true', List.isEmpty_eq_false_iff]
  constructor
  · rintro ⟨chars, present, rfl⟩
    rwa [String.toList_ofList]
  · intro present
    exact ⟨piece.toList, present, String.ofList_toList⟩

theorem result_parse_eq_ok_iff :
    (parse text).result = .ok set ↔
      pieces text ≠ [] ∧ List.Forall₂ Condition.Written (pieces text) set.conditions := by
  have read (conditions : List Condition) :
      (pieces text).mapM Condition.parse = .ok conditions ↔
        List.Forall₂ Condition.Written (pieces text) conditions := by
    rw [Except.mapM_eq_ok_iff]
    simp only [Condition.parse_eq_ok_iff]
  rw [result_parse, ← read]
  by_cases blank : pieces text = []
  · simp [blank]
  · rw [if_neg blank]
    cases (pieces text).mapM Condition.parse with
    | error error => simp [Except.map]
    | ok conditions =>
        simp only [Except.map_ok, Except.ok.injEq, ne_eq, blank, not_false_eq_true, true_and]
        constructor
        · rintro rfl
          rfl
        · rintro rfl
          rfl

/-- A condition is read as a condition set. -/
theorem result_parse_of_written {condition : Condition}
    (written : Condition.Written text condition) : (parse text).result = .ok ⟨[condition]⟩ := by
  have filled : text ≠ "" := by
    rintro rfl
    have read := Condition.parse_eq_ok_iff.2 written
    cases read
  have whole : pieces text = [text] := by
    simp [pieces, fragments, Text.fragments_of_not_infix written.not_infix, filled]
  rw [result_parse_eq_ok_iff, whole]
  exact ⟨List.cons_ne_nil _ _, .cons written .nil⟩

/-- A condition set can be read iff it has a fragment, and all its fragments are conditions. -/
theorem exists_result_parse_iff :
    (∃ set, (parse text).result = .ok set) ↔
      (∃ piece ∈ fragments text, piece ≠ []) ∧
        ∀ piece ∈ fragments text, piece ≠ [] →
          ∃ condition, Condition.Written (String.ofList piece) condition := by
  have nonempty : pieces text ≠ [] ↔ ∃ piece ∈ fragments text, piece ≠ [] := by
    constructor
    · intro filled
      rcases List.exists_mem_of_ne_nil _ filled with ⟨piece, present⟩
      exact ⟨piece.toList, mem_pieces.1 present⟩
    · rintro ⟨piece, present⟩
      have among : String.ofList piece ∈ pieces text := by
        rwa [mem_pieces, String.toList_ofList]
      exact List.ne_nil_of_mem among
  have written : (∀ piece ∈ pieces text, ∃ condition, Condition.Written piece condition) ↔
      ∀ piece ∈ fragments text, piece ≠ [] →
        ∃ condition, Condition.Written (String.ofList piece) condition := by
    constructor
    · intro all piece present filled
      apply all
      rw [mem_pieces, String.toList_ofList]
      exact ⟨present, filled⟩
    · intro all piece present
      rcases mem_pieces.1 present with ⟨among, filled⟩
      simpa using all piece.toList among filled
  rw [← nonempty, ← written, ← List.exists_forall₂_iff]
  constructor
  · rintro ⟨set, read⟩
    rcases result_parse_eq_ok_iff.1 read with ⟨filled, all⟩
    exact ⟨filled, set.conditions, all⟩
  · rintro ⟨filled, conditions, all⟩
    exact ⟨⟨conditions⟩, result_parse_eq_ok_iff.2 ⟨filled, all⟩⟩

/-! ### Writing what has been read -/

theorem map_chars_eq {texts : List String} {conditions : List Condition}
    (all : List.Forall₂ Condition.Written texts conditions) :
    conditions.map Condition.chars = texts.map String.toList := by
  induction all with
  | nil => rfl
  | cons written _ ih =>
      rw [List.map_cons, List.map_cons, ih, ← written.text_eq, Condition.text,
        String.toList_ofList]

theorem toList_text_of_parse (read : (parse text).result = .ok set) :
    set.text.toList = delimiter.intercalate ((pieces text).map String.toList) := by
  rw [ConditionSet.text, String.toList_ofList, map_chars_eq (result_parse_eq_ok_iff.1 read).2]

theorem isJoined_text_of_parse (read : (parse text).result = .ok set) :
    IsJoined ((pieces text).map String.toList) set.text where
  filled := by simpa using (result_parse_eq_ok_iff.1 read).1
  joined := (toList_text_of_parse read).symm
  apart := by
    intro chars present
    rcases List.mem_map.1 present with ⟨piece, among, rfl⟩
    have all := List.exists_forall₂_iff.1 ⟨_, (result_parse_eq_ok_iff.1 read).2⟩
    rcases all piece among with ⟨condition, written⟩
    exact written.not_infix

/-- What has been read is read again from the text that is written for it. -/
theorem result_parse_text (read : (parse text).result = .ok set) :
    (parse set.text).result = .ok set := by
  have same : pieces set.text = pieces text := by
    rw [← (List.map_injective_iff.2 fun _ _ => String.toList_inj.1).eq_iff, map_toList_pieces,
      (isJoined_text_of_parse read).fragments_eq, map_toList_pieces, List.filter_filter]
    simp
  rw [result_parse_eq_ok_iff, same]
  exact result_parse_eq_ok_iff.1 read

/-- Only empty fragments are lost in reading. -/
theorem text_eq_of_parse (read : (parse text).result = .ok set)
    (filled : [] ∉ fragments text) : set.text = text := by
  have all : (fragments text).filter (fun piece => !piece.isEmpty) = fragments text := by
    rw [List.filter_eq_self]
    intro piece present
    cases piece with
    | nil => exact absurd present filled
    | cons _ _ => rfl
  rw [← String.toList_inj, toList_text_of_parse read, map_toList_pieces, all]
  exact (isJoined_fragments text).joined

end ConditionSet

namespace Filter

theorem exists_result_parse_iff {texts : List String} :
    (∃ filter, (parse texts).result = .ok filter) ↔
      ∀ text ∈ texts, ∃ set, (ConditionSet.parse text).result = .ok set := by
  rw [← List.exists_forall₂_iff]
  constructor
  · rintro ⟨filter, read⟩
    exact ⟨filter.sets, forall₂_of_parse read⟩
  · rintro ⟨sets, all⟩
    refine ⟨⟨sets⟩, ?_⟩
    rw [parse, Evaluation.result_bind, Evaluation.result_mapM, Except.mapM_eq_ok_iff.2 all]
    rfl

theorem textOf_eq_ok_iff {value : Json} {text : String} :
    textOf value = .ok text ↔ value = .text text := by
  cases value <;> simp [textOf]

theorem mapM_textOf_eq_ok_iff {items : List Json} {texts : List String} :
    items.mapM textOf = .ok texts ↔ items = texts.map .text := by
  rw [Except.mapM_eq_ok_iff]
  simp only [textOf_eq_ok_iff]
  rw [← List.forall₂_eq_eq_eq, List.forall₂_map_right_iff]

theorem result_ofJson_array (items : List Json) :
    (ofJson (.array items)).result =
      items.mapM textOf >>= fun texts => (parse texts).result := by
  rw [ofJson, Evaluation.result_bind, Evaluation.result_except]

/-- Filters are read from arrays of texts, which are condition sets. -/
theorem exists_result_ofJson_iff {value : Json} :
    (∃ filter, (ofJson value).result = .ok filter) ↔
      ∃ texts : List String, value = .array (texts.map .text) ∧
        ∀ text ∈ texts, ∃ set, (ConditionSet.parse text).result = .ok set := by
  constructor
  · rintro ⟨filter, read⟩
    cases value with
    | array items =>
        rw [result_ofJson_array] at read
        rcases Except.bind_eq_ok_iff.1 read with ⟨texts, all, read⟩
        refine ⟨texts, ?_, exists_result_parse_iff.1 ⟨filter, read⟩⟩
        rw [mapM_textOf_eq_ok_iff.1 all]
    | _ => cases read
  · rintro ⟨texts, rfl, all⟩
    rcases exists_result_parse_iff.2 all with ⟨filter, read⟩
    refine ⟨filter, ?_⟩
    rw [result_ofJson_array, mapM_textOf_eq_ok_iff.2 rfl]
    exact read

/--
Reading accepts what is written, and nothing else. Conditions are written in one way, condition sets
up to empty fragments; a text that is no condition is named in the error. A filter is an array of
texts, each of which is a condition set.
-/
theorem parse_iff_written_and_text :
    (∀ text condition, Condition.parse text = .ok condition ↔ Condition.Written text condition) ∧
    (∀ text condition, Condition.Written text condition → condition.text = text) ∧
    (∀ condition, condition.IsProper → Condition.parse condition.text = .ok condition) ∧
    (∀ text, (¬∃ condition, Condition.Written text condition) →
      Condition.parse text = .error (.malformedCondition text)) ∧
    (∀ text, ∃ pieces, ConditionSet.IsJoined pieces text) ∧
    (∀ text pieces, ConditionSet.IsJoined pieces text →
      ((∃ set, (ConditionSet.parse text).result = .ok set) ↔
        (∃ piece ∈ pieces, piece ≠ []) ∧
          ∀ piece ∈ pieces, piece ≠ [] →
            ∃ condition, Condition.Written (String.ofList piece) condition) ∧
      ∀ set, (ConditionSet.parse text).result = .ok set →
        (ConditionSet.parse set.text).result = .ok set ∧ ([] ∉ pieces → set.text = text)) ∧
    (∀ value, (∃ filter, (ofJson value).result = .ok filter) ↔
      ∃ texts : List String, value = .array (texts.map .text) ∧
        ∀ text ∈ texts, ∃ set, (ConditionSet.parse text).result = .ok set) := by
  refine ⟨?_, ?_, ?_, ?_, ?_, ?_, ?_⟩
  · exact fun _ _ => Condition.parse_eq_ok_iff
  · exact fun _ _ written => written.text_eq
  · intro condition proper
    exact Condition.parse_eq_ok_iff.2 (Condition.written_text proper)
  · exact fun _ unwritten => Condition.parse_of_not_written unwritten
  · exact fun text => ⟨_, ConditionSet.isJoined_fragments text⟩
  · intro text pieces whole
    rw [← whole.fragments_eq]
    refine ⟨ConditionSet.exists_result_parse_iff, ?_⟩
    intro set read
    exact ⟨ConditionSet.result_parse_text read, ConditionSet.text_eq_of_parse read⟩
  · exact fun _ => exists_result_ofJson_iff

/-- Conditions with a stray delimiter between them, and a mark without a name. -/
theorem parse_iff_written_and_text_strayDelimiter :
    Condition.parse "/!|/G|b" = .ok (.not (.group "b")) ∧
      Condition.parse "/G|" = .error (.malformedCondition "/G|") ∧
      ConditionSet.IsJoined [['a'], [], ['/', '*', '|']] "a/&|/&|/*|" ∧
      (∃ set, (ConditionSet.parse "a/&|/&|/*|").result = .ok set ∧
        (ConditionSet.parse set.text).result = .ok set) ∧
      ∃ filter, (ofJson (.array [.text "a/&|/&|/*|"])).result = .ok filter := by
  rcases parse_iff_written_and_text with
    ⟨conditions, -, -, refused, -, sets, filters⟩
  have proper : (Condition.not (.group "b")).IsProper := ⟨by decide, by decide⟩
  have written : Condition.Written "/!|/G|b" (.not (.group "b")) := Condition.written_text proper
  have unnamed : ¬∃ condition, Condition.Written "/G|" condition := by
    rintro ⟨condition, written⟩
    have read := (conditions _ _).2 written
    cases read
  have whole : ConditionSet.IsJoined [['a'], [], ['/', '*', '|']] "a/&|/&|/*|" :=
    ⟨by decide, by decide, by decide⟩
  have all : ∀ piece ∈ [['a'], [], ['/', '*', '|']], piece ≠ [] →
      ∃ condition, Condition.Written (String.ofList piece) condition := by
    simp only [List.forall_mem_cons]
    refine ⟨fun _ => ⟨.tag "a", .plain (.tag (by decide) (by decide))⟩, by simp,
      fun _ => ⟨.all, .plain .all⟩, by simp⟩
  rcases sets _ _ whole with ⟨readable, again⟩
  rcases readable.2 ⟨⟨['a'], by simp, by simp⟩, all⟩ with ⟨set, read⟩
  refine ⟨(conditions _ _).2 written, refused _ unnamed, whole,
    ⟨set, read, (again set read).1⟩, ?_⟩
  refine (filters _).2 ⟨["a/&|/&|/*|"], rfl, ?_⟩
  simpa using ⟨set, read⟩

end Filter

end TagOrganizer
