import Mathlib
import TagOrganizer.Proofs.Text.Fragment
import TagOrganizer.Proofs.Version.Order
import TagOrganizer.Version.Gate

/-!
# Written versions and supported versions

A version is written as numerals with points between them, with blanks around it at most
(`parse?_eq_some_iff`); a numeral is digits, perhaps after a plus sign, of a number below `2 ^ 64`.
A document is read exactly if its version is written so and lies between the oldest and the newest
version that are supported, in the order of versions (`order_and_requireSupported`).
-/

namespace TagOrganizer

namespace Text

variable {front body back : List Char}

theorem trimChars_append (blankFront : ∀ char ∈ front, isBlank char = true)
    (blankBack : ∀ char ∈ back, isBlank char = true) (filled : body ≠ [])
    (first : ∀ char ∈ body.head?, isBlank char = false)
    (last : ∀ char ∈ body.getLast?, isBlank char = false) :
    trimChars (front ++ body ++ back) = body := by
  have begins : (body ++ back).dropWhile isBlank = body ++ back := by
    cases body with
    | nil => exact absurd rfl filled
    | cons char body =>
        rw [List.cons_append, List.dropWhile_cons_of_neg]
        simpa using first char rfl
  have ends : body.reverse.dropWhile isBlank = body.reverse := by
    rw [← List.head?_reverse] at last
    cases backward : body.reverse with
    | nil => rfl
    | cons char others =>
        rw [List.dropWhile_cons_of_neg]
        simpa using last char (by rw [backward, List.head?_cons]; rfl)
  rw [trimChars, List.append_assoc, List.dropWhile_append_of_pos blankFront, begins,
    List.reverse_append, List.dropWhile_append_of_pos (by simpa using blankBack), ends,
    List.reverse_reverse]

theorem exists_eq_trimChars (text : List Char) :
    ∃ front back, text = front ++ trimChars text ++ back ∧
      ∀ char ∈ front ++ back, isBlank char = true := by
  let rest := text.dropWhile isBlank
  refine ⟨text.takeWhile isBlank, (rest.reverse.takeWhile isBlank).reverse, ?_, ?_⟩
  · have whole : rest.reverse.takeWhile isBlank ++ rest.reverse.dropWhile isBlank = rest.reverse :=
      List.takeWhile_append_dropWhile
    have turned := congrArg List.reverse whole
    rw [List.reverse_append, List.reverse_reverse] at turned
    rw [trimChars, List.append_assoc, turned, List.takeWhile_append_dropWhile]
  · intro char present
    rcases List.mem_append.1 present with inFront | inBack
    · exact List.mem_takeWhile_imp inFront
    · exact List.mem_takeWhile_imp (List.mem_reverse.1 inBack)

/-- A character with a code between those of two that are not blank, with no blank between them. -/
theorem isBlank_of_isDigit {char : Char} (digit : char.isDigit = true) : isBlank char = false := by
  have range : 48 ≤ char.toNat ∧ char.toNat ≤ 57 := by
    simpa [Char.isDigit, UInt32.le_iff_toNat_le] using digit
  have below (code : Nat) (least : 48 ≤ code) (most : code ≤ 57) :
      spreadHolds blankBounds code = false := by
    interval_cases code <;> decide
  exact below _ range.1 range.2

end Text

namespace Version

/-! ### Numerals -/

/-- Digits, perhaps after a plus sign, and the number that they denote, which fits in 64 bits. -/
def IsNumeral (text : List Char) (value : Nat) : Prop :=
  ∃ digits, (text = digits ∨ text = '+' :: digits) ∧ digits ≠ [] ∧
    (∀ digit ∈ digits, digit.isDigit = true) ∧ Nat.ofDigitChars 10 digits 0 = value ∧
    value < Nat.pow 2 64

theorem digits?_eq_some_iff {digits : List Char} {value : Nat} :
    digits? digits = some value ↔
      digits ≠ [] ∧ (∀ digit ∈ digits, digit.isDigit = true) ∧
        Nat.ofDigitChars 10 digits 0 = value := by
  have denoted : digits.foldl (fun value char => value * 10 + (char.toNat - '0'.toNat)) 0 =
      Nat.ofDigitChars 10 digits 0 := by
    simp only [Nat.ofDigitChars, Nat.mul_comm]
  rw [digits?, denoted]
  split
  · rename_i improper
    simp only [reduceCtorEq, false_iff]
    rintro ⟨filled, proper, -⟩
    simp only [Bool.or_eq_true, List.isEmpty_iff, List.any_eq_true] at improper
    rcases improper with empty | ⟨char, present, noDigit⟩
    · exact filled empty
    · simp [proper char present] at noDigit
  · rename_i proper
    simp only [Bool.or_eq_true, List.isEmpty_iff, List.any_eq_true, not_or, not_exists, not_and]
      at proper
    simp only [Option.some.injEq]
    constructor
    · rintro rfl
      exact ⟨proper.1, fun digit present => by simpa using proper.2 digit present, rfl⟩
    · exact fun denotes => denotes.2.2

theorem component?_eq_some_iff {text : List Char} {value : Nat} :
    component? (String.ofList text) = some value ↔ IsNumeral text value := by
  simp only [component?, String.toList_ofList, Option.filter_eq_some_iff, decide_eq_true_eq]
  constructor
  · rintro ⟨denotes, fits⟩
    split at denotes
    · rename_i digits
      rcases digits?_eq_some_iff.1 denotes with ⟨filled, proper, value⟩
      exact ⟨digits, .inr rfl, filled, proper, value, fits⟩
    · rcases digits?_eq_some_iff.1 denotes with ⟨filled, proper, value⟩
      exact ⟨text, .inl rfl, filled, proper, value, fits⟩
  · rintro ⟨digits, written, filled, proper, value, fits⟩
    refine ⟨?_, fits⟩
    have read := digits?_eq_some_iff.2 ⟨filled, proper, value⟩
    rcases written with rfl | rfl
    · split
      · exact absurd (proper '+' (by simp)) (by decide)
      · exact read
    · exact read

namespace IsNumeral

variable {text : List Char} {value : Nat}

theorem ne_nil (numeral : IsNumeral text value) : text ≠ [] := by
  rcases numeral with ⟨digits, rfl | rfl, filled, -⟩
  · exact filled
  · exact List.cons_ne_nil _ _

/-- A numeral holds digits, and a plus sign before them at most. -/
theorem isDigit_or_eq (numeral : IsNumeral text value) :
    ∀ char ∈ text, char.isDigit = true ∨ char = '+' := by
  rcases numeral with ⟨digits, rfl | rfl, -, proper, -⟩
  · exact fun char present => .inl (proper char present)
  · intro char present
    rcases List.mem_cons.1 present with plus | inside
    · exact .inr plus
    · exact .inl (proper char inside)

theorem not_mem_point (numeral : IsNumeral text value) : '.' ∉ text := by
  intro present
  rcases numeral.isDigit_or_eq '.' present with digit | plus
  · exact absurd digit (by decide)
  · exact absurd plus (by decide)

theorem not_mem_blank (numeral : IsNumeral text value) :
    ∀ char ∈ text, Text.isBlank char = false := by
  intro char present
  rcases numeral.isDigit_or_eq char present with digit | rfl
  · exact Text.isBlank_of_isDigit digit
  · decide

theorem of_repr (fits : value < Nat.pow 2 64) : IsNumeral (Nat.repr value).toList value := by
  rw [Nat.toList_repr]
  refine ⟨Nat.toDigits 10 value, .inl rfl, Nat.toDigits_ne_nil, ?_, ?_, fits⟩
  · exact fun digit present => Nat.isDigit_of_mem_toDigits (by decide) (by decide) present
  · exact Nat.ofDigitChars_toDigits (by decide) (by decide)

end IsNumeral

/-! ### Written versions -/

/-- How a version with some components may be written. -/
def IsWritten (text : String) (components : List Nat) : Prop :=
  ∃ front numerals back, text.toList = front ++ ['.'].intercalate numerals ++ back ∧
    (∀ char ∈ front ++ back, Text.isBlank char = true) ∧ numerals ≠ [] ∧
    List.Forall₂ IsNumeral numerals components

theorem mapM_eq_some_iff {numerals : List (List Char)} {components : List Nat} :
    (numerals.map String.ofList).mapM component? = some components ↔
      List.Forall₂ IsNumeral numerals components := by
  induction numerals generalizing components with
  | nil => cases components <;> simp
  | cons numeral numerals ih =>
      simp only [List.map_cons, List.mapM_cons, Option.bind_eq_bind, Option.bind_eq_some_iff,
        Option.pure_def, Option.some.injEq, component?_eq_some_iff, ih,
        List.forall₂_cons_left_iff]
      constructor
      · rintro ⟨value, denotes, others, written, rfl⟩
        exact ⟨value, others, denotes, written, rfl⟩
      · rintro ⟨value, others, denotes, written, rfl⟩
        exact ⟨value, denotes, others, written, rfl⟩

section Written

variable {numerals : List (List Char)} {components : List Nat}

theorem exists_mem_of_forall₂ (written : List.Forall₂ IsNumeral numerals components)
    {numeral : List Char} (present : numeral ∈ numerals) : ∃ value, IsNumeral numeral value := by
  induction written with
  | nil => cases present
  | cons denotes _ ih =>
      rcases List.mem_cons.1 present with rfl | behind
      · exact ⟨_, denotes⟩
      · exact ih behind

theorem lt_of_mem_components (written : List.Forall₂ IsNumeral numerals components) :
    ∀ value ∈ components, value < Nat.pow 2 64 := by
  induction written with
  | nil => simp
  | cons denotes _ ih =>
      rcases denotes with ⟨_, -, -, -, -, fits⟩
      exact List.forall_mem_cons.2 ⟨fits, ih⟩

/-- Between points there are only numerals, so that no blank is among them. -/
theorem not_mem_blank_intercalate (written : List.Forall₂ IsNumeral numerals components) :
    ∀ char ∈ ['.'].intercalate numerals, Text.isBlank char = false := by
  induction written with
  | nil => simp [List.intercalate]
  | cons denotes others ih =>
      intro char present
      cases others with
      | nil =>
          simp only [List.intercalate, List.intersperse_singleton, List.flatten_singleton]
            at present
          exact denotes.not_mem_blank char present
      | cons _ _ =>
          simp only [List.intercalate, List.intersperse_cons_cons, List.flatten_cons,
            List.mem_append, List.mem_singleton] at present ih
          rcases present with inside | rfl | behind
          · exact denotes.not_mem_blank char inside
          · decide
          · exact ih char behind

theorem intercalate_ne_nil (written : List.Forall₂ IsNumeral numerals components)
    (filled : numerals ≠ []) : ['.'].intercalate numerals ≠ [] := by
  cases written with
  | nil => exact absurd rfl filled
  | cons denotes others =>
      cases others with
      | nil => simpa [List.intercalate] using denotes.ne_nil
      | cons _ _ => simp [List.intercalate]

/-- Numerals between points are read back as what stands between the points. -/
theorem fragments_of_written (written : List.Forall₂ IsNumeral numerals components)
    (filled : numerals ≠ []) :
    Text.fragments '.' [] (['.'].intercalate numerals) = numerals := by
  apply Text.fragments_intercalate (by simp) filled
  intro numeral present inside
  rcases exists_mem_of_forall₂ written present with ⟨value, denotes⟩
  exact denotes.not_mem_point (inside.subset (by simp))

end Written

theorem parse?_eq_some_iff {text : String} {version : Version} :
    parse? text = some version ↔ IsWritten text version.components := by
  simp only [parse?, Text.splitAtChar, Text.trim, String.toList_ofList, Option.map_eq_some_iff]
  constructor
  · rintro ⟨components, read, rfl⟩
    rcases Text.exists_eq_trimChars text.toList with ⟨front, back, whole, blank⟩
    rw [← Text.join_fragments '.' [] (Text.trimChars text.toList)] at whole
    exact ⟨front, _, back, whole, blank, Text.fragments_ne_nil _ _ _, mapM_eq_some_iff.1 read⟩
  · rintro ⟨front, numerals, back, whole, blank, filled, written⟩
    have unblank := not_mem_blank_intercalate written
    have trimmed : Text.trimChars text.toList = ['.'].intercalate numerals := by
      rw [whole]
      exact Text.trimChars_append (fun char present => blank char (by simp [present]))
        (fun char present => blank char (by simp [present])) (intercalate_ne_nil written filled)
        (fun char first => unblank char (List.mem_of_head? first))
        (fun char last => unblank char (List.mem_of_getLast? last))
    rw [trimmed, fragments_of_written written filled]
    exact ⟨version.components, mapM_eq_some_iff.2 written, rfl⟩

theorem isWritten_text {text : String} {version : Version} (read : parse? text = some version) :
    IsWritten version.text version.components := by
  rcases parse?_eq_some_iff.1 read with ⟨-, numerals, -, -, -, filled, written⟩
  refine ⟨[], version.components.map fun value => (Nat.repr value).toList, [], ?_, by simp, ?_, ?_⟩
  · simp [Version.text, String.toList_intercalate, List.map_map, Function.comp_def]
  · intro empty
    rw [List.map_eq_nil_iff] at empty
    rw [empty] at written
    cases written
    exact filled rfl
  · rw [List.forall₂_map_left_iff]
    exact List.forall₂_same.2 fun value present =>
      IsNumeral.of_repr (lt_of_mem_components written value present)

/-! ### Supported versions -/

/-- The text with which a value of a document names a version. -/
inductive Names : Json → String → Prop where
  | text (text : String) : Names (.text text) text
  /-- Any other value is taken as it is written. -/
  | other (value : Json) (noText : ∀ text, value ≠ .text text) : Names value value.compact

theorem names_iff {found : Json} {text : String} : Names found text ↔ text = textOf found := by
  constructor
  · intro names
    cases names with
    | text text => rfl
    | other value noText =>
        cases found with
        | text text => exact absurd rfl (noText text)
        | _ => rfl
  · rintro rfl
    cases found with
    | text text => exact .text text
    | _ => exact .other _ (by simp)

section Gate

variable {document : Document} {found : Json} {oldest newest : String} {low high : Version}

theorem requireSupported_eq (lowRead : parse? oldest = some low)
    (highRead : parse? newest = some high) :
    requireSupported document found oldest newest =
      if (parse? (textOf found)).any fun version => version.isWithin low high then .ok ()
      else .error (.unsupportedVersion document (textOf found) oldest newest) := by
  cases read : parse? (textOf found) with
  | none => simp [requireSupported, read, throw, throwThe, MonadExceptOf.throw]
  | some version =>
      simp [requireSupported, read, Version.read, lowRead, highRead, throw, throwThe,
        MonadExceptOf.throw, bind, Except.bind, pure, Except.pure]

/-- The version of a document is supported iff it is written and lies between two versions. -/
theorem any_isWithin_iff :
    ((parse? (textOf found)).any fun version => version.isWithin low high) = true ↔
      ∃ text components, Names found text ∧ IsWritten text components ∧
        low.compare ⟨components⟩ ≠ .gt ∧ compare ⟨components⟩ high ≠ .gt := by
  rw [Option.any_eq_true]
  constructor
  · rintro ⟨version, read, within⟩
    exact ⟨_, _, names_iff.2 rfl, parse?_eq_some_iff.1 read, (isWithin_iff _ _ _).1 within⟩
  · rintro ⟨text, components, names, written, within⟩
    rw [names_iff] at names
    subst names
    exact ⟨⟨components⟩, parse?_eq_some_iff.2 written, (isWithin_iff _ _ _).2 within⟩

end Gate

/--
Versions are ordered component by component as if zeros stood behind the shorter one. Exactly the
written versions are read, and one that has been read is read again from its own text. A document is
accepted iff the text with which it names its version is that of a version between the oldest and
the newest one, and is refused as not supported otherwise.
-/
theorem order_and_requireSupported :
    IsPaddedOrder compare sameAs ∧
      (∀ text version, parse? text = some version ↔ IsWritten text version.components) ∧
      (∀ text version, parse? text = some version → parse? version.text = some version) ∧
      ∀ document found oldest newest low high, parse? oldest = some low →
        parse? newest = some high →
        (requireSupported document found oldest newest = .ok () ↔
          ∃ text components, Names found text ∧ IsWritten text components ∧
            low.compare ⟨components⟩ ≠ .gt ∧ compare ⟨components⟩ high ≠ .gt) ∧
        (requireSupported document found oldest newest ≠ .ok () →
          requireSupported document found oldest newest =
            .error (.unsupportedVersion document (textOf found) oldest newest)) := by
  refine ⟨isPaddedOrder_compare, fun _ _ => parse?_eq_some_iff, ?_, ?_⟩
  · intro text version read
    exact parse?_eq_some_iff.2 (isWritten_text read)
  · intro document found oldest newest low high lowRead highRead
    rw [requireSupported_eq lowRead highRead, ← any_isWithin_iff]
    constructor
    · split
      · rename_i within
        exact iff_of_true rfl within
      · rename_i outside
        exact iff_of_false (by simp) outside
    · intro refused
      split at refused
      · exact absurd rfl refused
      · rename_i outside
        exact if_neg outside

/-- The newest version that is supported, written with blanks, a plus sign and a leading zero. -/
theorem order_and_requireSupported_newest :
    parse? "1" = some ⟨[1]⟩ ∧ parse? "1.1.0" = some ⟨[1, 1, 0]⟩ ∧
      parse? " +1.01\n" = some ⟨[1, 1]⟩ ∧ parse? (Version.text ⟨[1, 1]⟩) = some ⟨[1, 1]⟩ ∧
      requireSupported .rules (.text " +1.01\n") "1" "1.1.0" = .ok () := by
  have low : parse? "1" = some ⟨[1]⟩ := by decide +kernel
  have high : parse? "1.1.0" = some ⟨[1, 1, 0]⟩ := by decide +kernel
  have read : parse? " +1.01\n" = some ⟨[1, 1]⟩ := by decide +kernel
  rcases order_and_requireSupported with ⟨-, written, again, gate⟩
  refine ⟨low, high, read, again _ _ read, ?_⟩
  rw [(gate .rules (.text " +1.01\n") _ _ _ _ low high).1]
  have above : compare ⟨[1]⟩ ⟨[1, 1]⟩ = .lt := by cbv
  have below : compare ⟨[1, 1]⟩ ⟨[1, 1, 0]⟩ = .eq := by cbv
  exact ⟨_, [1, 1], .text _, (written _ _).1 read, by simp [above], by simp [below]⟩

end Version

end TagOrganizer
