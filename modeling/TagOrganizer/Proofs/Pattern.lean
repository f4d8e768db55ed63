import Mathlib
import TagOrganizer.Pattern
import TagOrganizer.Proofs.Regex.Framed
import TagOrganizer.Proofs.Regex.Search

/-!
# What patterns match

A pattern is to match all of a text (`whole`) or some beginning of it (`leading`). Both are made by
writing anchors and a group around the text of the pattern, so that the question is what all of that
says. If the pattern is a regular expression on its own, it is the part in the group, unless it ends
in a comment and so keeps the end of the group from being read (`ok_iff_and_isMatch_iff`). If it is
none, it may be taken all the same: one of its parentheses can close the group, and another one open
a group anew (`whole_unbalanced`).
-/

namespace TagOrganizer

namespace Regex

variable {text : String} {part : Part}

theorem spans_look_textStart_iff {front rest : List Char} {later : Place} :
    (look .textStart).Spans (.behind front rest) later ↔
      front = [] ∧ later = .behind front rest := by
  have first : Look.textStart.holds (.behind front rest) = true ↔ front = [] := by
    cases front using List.reverseRecOn <;> simp [Look.holds, Place.behind]
  simp only [Spans, first]

theorem spans_look_textEnd_iff {front rest : List Char} {later : Place} :
    (look .textEnd).Spans (.behind front rest) later ↔
      rest = [] ∧ later = .behind front rest := by
  have last : Look.textEnd.holds (.behind front rest) = true ↔ rest = [] := by
    cases rest <;> simp [Look.holds, Place.behind]
  simp only [Spans, last]

/-- A pattern that begins at the beginning of a text matches some beginning of the text. -/
theorem isMatch_leading_iff :
    part.leading.regex.isMatch text = true ↔
      ∃ front rest, text.toList = front ++ rest ∧
        part.regex.Spans (.start text.toList) (.behind front rest) := by
  simp only [isMatch_iff, Part.leading, spans_sequence, SpansAll, spans_look_textStart_iff]
  constructor
  · rintro ⟨front, rest, stop, isText, start, ⟨rfl, rfl⟩, stop, spans, -⟩
    rcases spans.exists_behind with ⟨middle, others, rfl, rfl⟩
    exact ⟨middle, others, isText, by rwa [isText]⟩
  · rintro ⟨front, rest, isText, spans⟩
    exact ⟨[], text.toList, _, rfl, _, ⟨rfl, rfl⟩, _, spans, rfl⟩

/-- A pattern that goes from the beginning to the end matches all of a text. -/
theorem isMatch_whole_iff :
    part.whole.regex.isMatch text = true ↔
      part.regex.Spans (.start text.toList) (.behind text.toList []) := by
  simp only [isMatch_iff, Part.whole, spans_sequence, SpansAll, spans_look_textStart_iff]
  constructor
  · rintro ⟨front, rest, stop, isText, start, ⟨rfl, rfl⟩, middle, spans, stop, ends, -⟩
    rcases spans.exists_behind with ⟨taken, others, rfl, rfl⟩
    rcases spans_look_textEnd_iff.1 ends with ⟨rfl, -⟩
    rw [List.nil_append, List.append_nil] at isText
    rw [isText]
    simpa [Place.start_eq_behind] using spans
  · intro spans
    exact ⟨[], text.toList, _, rfl, _, ⟨rfl, rfl⟩, _, spans, _,
      spans_look_textEnd_iff.2 ⟨rfl, rfl⟩, rfl⟩

end Regex

namespace Pattern

open Regex

variable {pattern shown source : String} {found : Pattern} {part framed : Part} {tail : Source}

theorem ofSource_eq_ok_iff :
    ofSource shown source = .ok found ↔
      found.source = source ∧ parse? source = some found.regex := by
  rcases found with ⟨text, regex⟩
  rw [ofSource]
  cases parse? source with
  | none => simp
  | some other => simp [eq_comm]

/-- A pattern is made of an anchored text iff its anchors are read and it is not too large. -/
theorem ofSource_anchored_iff (closing : IsClosing tail) (becomes : Becomes tail part framed)
    (written : Written pattern.toList part)
    (isSource : source.toList = '^' :: '(' :: '?' :: ':' :: (pattern.toList ++ tail)) :
    ofSource shown source = .ok found ↔ found.source = source ∧
      ¬ Hides pattern.toList tail ∧ framed.Fits ∧ framed.regex = found.regex := by
  rw [ofSource_eq_ok_iff, parse?_eq_some_iff, isSource]
  simp only [written_anchored_iff closing becomes written]
  constructor
  · rintro ⟨same, part, ⟨shows, rfl⟩, fits, isRegex⟩
    exact ⟨same, shows, fits, isRegex⟩
  · rintro ⟨same, shows, fits, isRegex⟩
    exact ⟨same, framed, ⟨shows, rfl⟩, fits, isRegex⟩

theorem exists_ofSource_anchored_iff (closing : IsClosing tail)
    (becomes : Becomes tail part framed) (written : Written pattern.toList part)
    (isSource : source.toList = '^' :: '(' :: '?' :: ':' :: (pattern.toList ++ tail)) :
    (∃ found, ofSource shown source = .ok found) ↔
      ¬ Hides pattern.toList tail ∧ framed.Fits := by
  constructor
  · rintro ⟨found, made⟩
    rcases (ofSource_anchored_iff closing becomes written isSource).1 made with ⟨-, shows, fits, -⟩
    exact ⟨shows, fits⟩
  · rintro ⟨shows, fits⟩
    exact ⟨⟨source, framed.regex⟩,
      (ofSource_anchored_iff closing becomes written isSource).2 ⟨rfl, shows, fits, rfl⟩⟩

theorem toList_whole (pattern : String) :
    ("^(?:" ++ pattern ++ ")$").toList =
      '^' :: '(' :: '?' :: ':' :: (pattern.toList ++ [')', '$']) := by
  simp [String.toList_append]

theorem toList_leading (pattern : String) :
    ("^(?:" ++ pattern ++ ")").toList = '^' :: '(' :: '?' :: ':' :: (pattern.toList ++ [')']) := by
  simp [String.toList_append]

theorem isClosing_dollar : IsClosing [')', '$'] :=
  ⟨['$'], rfl, fun _ among => List.mem_singleton.1 among⟩

/--
A pattern that is a regular expression is made with its anchors iff they are read behind it (as they
are if there is no comment in it) and it is not too large with them; then it matches the texts that
it is to match. Another pattern is only made if one of its parentheses closes nothing.
-/
theorem ok_iff_and_isMatch_iff (pattern : String) :
    (∀ regex, parse? pattern = some regex ↔
      ∃ part, Written pattern.toList part ∧ part.Fits ∧ part.regex = regex) ∧
    (∀ part, Written pattern.toList part →
      ('#' ∉ pattern.toList →
        ¬ Hides pattern.toList [')', '$'] ∧ ¬ Hides pattern.toList [')']) ∧
      ((∃ found, whole pattern = .ok found) ↔
        ¬ Hides pattern.toList [')', '$'] ∧ part.whole.Fits) ∧
      (∀ found, whole pattern = .ok found → ∀ text, found.isMatch text = true ↔
        part.regex.Spans (.start text.toList) (.behind text.toList [])) ∧
      ((∃ found, leading pattern = .ok found) ↔
        ¬ Hides pattern.toList [')'] ∧ part.leading.Fits) ∧
      ∀ found, leading pattern = .ok found → ∀ text, found.isMatch text = true ↔
        ∃ front rest, text.toList = front ++ rest ∧
          part.regex.Spans (.start text.toList) (.behind front rest)) ∧
    ((∀ part, ¬ Written pattern.toList part) → ∀ found,
      whole pattern = .ok found ∨ leading pattern = .ok found →
        Strays Reading.start pattern.toList) := by
  refine ⟨fun regex => parse?_eq_some_iff, fun part written => ⟨?_, ?_, ?_, ?_, ?_⟩, ?_⟩
  · intro plain
    exact ⟨fun hides => plain (written.mem_of_hides isClosing_dollar hides),
      fun hides => plain (written.mem_of_hides isClosing_paren hides)⟩
  · exact exists_ofSource_anchored_iff isClosing_dollar becomes_whole written (toList_whole pattern)
  · intro found made text
    rcases (ofSource_anchored_iff isClosing_dollar becomes_whole written
      (toList_whole pattern)).1 made with ⟨-, -, -, isRegex⟩
    rw [isMatch, ← isRegex]
    exact isMatch_whole_iff
  · exact exists_ofSource_anchored_iff isClosing_paren becomes_leading written
      (toList_leading pattern)
  · intro found made text
    rcases (ofSource_anchored_iff isClosing_paren becomes_leading written
      (toList_leading pattern)).1 made with ⟨-, -, -, isRegex⟩
    rw [isMatch, ← isRegex]
    exact isMatch_leading_iff
  · intro unwritten found made
    have strays {tail : Source} {source : String} (closing : IsClosing tail)
        (isSource : source.toList = '^' :: '(' :: '?' :: ':' :: (pattern.toList ++ tail))
        (made : ofSource pattern source = .ok found) : Strays Reading.start pattern.toList := by
      rcases parse?_eq_some_iff.1 (ofSource_eq_ok_iff.1 made).2 with ⟨framed, written, -⟩
      rw [isSource] at written
      exact (written_or_strays closing written).resolve_left (not_exists.2 unwritten)
    rcases made with made | made
    · exact strays isClosing_dollar (toList_whole pattern) made
    · exact strays isClosing_paren (toList_leading pattern) made

/-- A letter, or two others. -/
def letters : Part :=
  ⟨choice [.one (.single 'a'), sequence [.one (.single 'b'), .one (.single 'c')]], 2, true⟩

/-- What is read of an alternative on each side of the group that was to hold both. -/
def sides : Part :=
  ⟨choice [sequence [.look .textStart, .one (.single 'a')],
    sequence [.group 1 none (.one (.single 'b')), .look .textEnd]], 3, true⟩

theorem whole_sides :
    whole "a)|(b" = .ok ⟨"^(?:" ++ "a)|(b" ++ ")$", sides.regex⟩ :=
  ofSource_eq_ok_iff.2 ⟨rfl, parse?_eq_some_iff.2
    ⟨sides, ⟨_, rfl, rfl, rfl⟩, ⟨by decide, rfl⟩, rfl⟩⟩

theorem not_written_sides (part : Part) : ¬ Written "a)|(b".toList part := by
  rintro ⟨ended, read, -⟩
  have none : readAll ("a)|(b".toList.length + 1) Reading.start "a)|(b".toList = none := by cbv
  rw [none] at read
  cases read

theorem ok_iff_and_isMatch_iff_letters :
    Written "a|bc".toList letters ∧
      (∃ found, whole "a|bc" = .ok found ∧ ∀ text, found.isMatch text = true ↔
        letters.regex.Spans (.start text.toList) (.behind text.toList [])) ∧
      (∃ found, leading "a|bc" = .ok found ∧ ∀ text, found.isMatch text = true ↔
        ∃ front rest, text.toList = front ++ rest ∧
          letters.regex.Spans (.start text.toList) (.behind front rest)) ∧
      Strays Reading.start "a)|(b".toList := by
  have written : Written "a|bc".toList letters := ⟨_, rfl, rfl, rfl⟩
  rcases (ok_iff_and_isMatch_iff "a|bc").2.1 letters written with
    ⟨shows, makesWhole, isWhole, makesLeading, isLeading⟩
  rcases shows (by decide) with ⟨showsWhole, showsLeading⟩
  rcases makesWhole.2 ⟨showsWhole, by decide, rfl⟩ with ⟨found, made⟩
  rcases makesLeading.2 ⟨showsLeading, by decide, rfl⟩ with ⟨other, madeOther⟩
  exact ⟨written, ⟨found, made, isWhole found made⟩, ⟨other, madeOther, isLeading other madeOther⟩,
    (ok_iff_and_isMatch_iff "a)|(b").2.2 not_written_sides _ (.inl whole_sides)⟩

/-- A pattern that is no regular expression can close the group around it and open another one. -/
theorem whole_unbalanced :
    parse? "a)|(b" = none ∧ ∃ found, whole "a)|(b" = .ok found ∧ found.isMatch "ax" = true := by
  refine ⟨?_, _, whole_sides, ?_⟩
  · rw [Option.eq_none_iff_forall_ne_some]
    intro regex parsed
    rcases parse?_eq_some_iff.1 parsed with ⟨part, written, -⟩
    exact not_written_sides part written
  · change sides.regex.isMatch "ax" = true
    cbv

end Pattern

end TagOrganizer
