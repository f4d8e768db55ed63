import Mathlib.Data.List.Chain
import Mathlib.Data.List.Infix
import TagOrganizer.Proofs.Template.Reading

/-!
# Normal forms of formats

The tokens of a format are written one after the other to give the format back, and no other tokens
in normal form are written so (`source_tokens_and_tokens_eq`). In normal form texts are not empty,
do not touch each other and hold no marker. A marker can then not begin in a text and end behind it:
the slash of what follows would have to begin the end of a name, but no marker begins like that.
-/

namespace TagOrganizer

namespace Template

/-- Whether no marker is recognized anywhere in a text. -/
def Unmarked (text : List Char) : Prop :=
  ∀ suffix, suffix <:+ text → Token.readMarker? suffix = none

/-- Whether a token is a text without markers that is not empty, or has a proper name if any. -/
def Token.IsNormal : Token → Prop
  | text written => written ≠ "" ∧ Unmarked written.toList
  | tagChoice name => name ≠ "" ∧ '/' ∉ name.toList
  | groupChoice name => name ≠ "" ∧ '/' ∉ name.toList
  | tagInGroup name => name ≠ "" ∧ '/' ∉ name.toList
  | _ => True

/-- Tokens that the reading of a format can end with. -/
structure IsNormal (tokens : List Token) : Prop where
  each : ∀ token ∈ tokens, token.IsNormal
  /-- No two texts touch each other. -/
  apart : tokens.IsChain fun token next => token.isText = false ∨ next.isText = false

namespace Token

theorem isNormal_iff_of_not_isText {token : Token} (marker : token.isText = false) :
    token.IsNormal ↔ token.IsClean := by
  cases token with
  | text _ => cases marker
  | _ => simp [IsNormal, IsClean, Condition.isName_iff]

/-! ### Markers behind a text -/

/-- A marker has a slash at its front, and another one at most in front of its last character. -/
theorem exists_source_eq {token : Token} (marker : token.isText = false)
    (clean : token.IsClean) :
    ∃ head body ending, token.source = ('/' :: head :: body) ++ ending ∧ head ∈ markerHeads ∧
      '/' ∉ head :: body ∧ (ending = [] ∨ ending = nameEnd) := by
  have named {letters : List Char} {name : String} (proper : Condition.isName name.toList = true)
      (slashless : '/' ∉ letters) : '/' ∉ '?' :: (letters ++ name.toList) := by
    simp [slashless, (Condition.isName_iff.1 proper).2]
  cases token with
  | text _ => cases marker
  | tagChoice name =>
      exact ⟨'?', ['T', '|'] ++ name.toList, nameEnd, rfl, by decide, named clean (by decide),
        .inr rfl⟩
  | groupChoice name =>
      exact ⟨'?', ['G', '|'] ++ name.toList, nameEnd, rfl, by decide, named clean (by decide),
        .inr rfl⟩
  | tagInGroup name =>
      exact ⟨'?', ['T', 'I', 'G', '|'] ++ name.toList, nameEnd, rfl, by decide,
        named clean (by decide), .inr rfl⟩
  | _ => exact ⟨_, _, [], (List.append_nil _).symm, by decide, by decide, .inl rfl⟩

/-- A slash inside a marker begins the end of a name. -/
theorem eq_bar_of_source_eq {token : Token} (marker : token.isText = false)
    (clean : token.IsClean) {front back : List Char} (filled : front ≠ [])
    (shape : token.source = front ++ '/' :: back) : back = ['|'] := by
  rcases exists_source_eq marker clean with ⟨head, body, ending, written, -, slashless, ended⟩
  have last (middle : List Char) (behind : ending = middle ++ '/' :: back) : back = ['|'] := by
    rcases ended with rfl | rfl
    · simp at behind
    · cases middle with
      | nil => exact (List.cons.inj behind).2.symm
      | cons char middle =>
          have bar := (List.cons.inj behind).2
          cases middle with
          | nil => cases bar
          | cons _ middle => simp at bar
  cases front with
  | nil => exact absurd rfl filled
  | cons first front =>
      have tail : (head :: body) ++ ending = front ++ '/' :: back :=
        (List.cons.inj (written.symm.trans shape)).2
      rcases List.append_eq_append_iff.1 tail with
        ⟨middle, whole, behind⟩ | ⟨middle, whole, behind⟩
      · exact last middle behind
      · cases middle with
        | nil => exact last [] behind.symm
        | cons char middle =>
            rw [whole, ← (List.cons.inj behind).1] at slashless
            simp at slashless

/-- A text in which no marker begins has no marker that begins in it and ends behind it. -/
theorem readMarker?_append_marker {text : List Char} (filled : text ≠ [])
    (missing : readMarker? text = none) {next : Token} (marker : next.isText = false)
    (clean : next.IsClean) (rest : List Char) :
    readMarker? (text ++ (next.source ++ rest)) = none := by
  have absent {token : Token} {after : List Char} (kind : token.isText = false)
      (proper : token.IsClean) : text ≠ token.source ++ after := by
    intro whole
    rw [readMarker?_eq_some_iff.2 ⟨kind, proper, whole⟩] at missing
    cases missing
  rw [Option.eq_none_iff_forall_ne_some]
  rintro ⟨token, after⟩ read
  rcases readMarker?_eq_some_iff.1 read with ⟨kind, proper, whole⟩
  rcases List.append_eq_append_iff.1 whole with ⟨middle, written, behind⟩ | ⟨middle, written, -⟩
  · -- The marker goes on behind the text, so that the slash of what follows lies inside it.
    rcases exists_source_eq marker clean with ⟨head, body, ending, shape, isHead, -, -⟩
    cases middle with
    | nil => exact absent kind proper (by rw [written, List.append_nil, List.append_nil])
    | cons char middle =>
        rw [shape] at behind
        simp only [List.cons_append, List.cons.injEq] at behind
        rcases behind with ⟨rfl, behind⟩
        rw [eq_bar_of_source_eq kind proper filled written, List.singleton_append,
          List.cons.injEq] at behind
        rw [behind.1] at isHead
        exact absurd isHead (by decide)
  · exact absent kind proper written

end Token

/-! ### Reading what is in normal form -/

theorem IsNormal.tail {token : Token} {written : List Token}
    (normal : IsNormal (token :: written)) : IsNormal written where
  each := fun other present => normal.each other (by simp [present])
  apart := (List.isChain_cons.1 normal.apart).2

theorem IsNormal.isText_next {words : String} {next : Token} {written : List Token}
    (normal : IsNormal (.text words :: next :: written)) : next.isText = false := by
  simpa [Token.isText] using (List.isChain_cons.1 normal.apart).1 next rfl

/-- Behind a text stands a marker, if anything. -/
theorem IsNormal.unpierced {words : String} {written : List Token}
    (normal : IsNormal (.text words :: written)) :
    Unpierced words.toList (written.flatMap Token.source) := by
  intro suffix behind filled
  have text : words ≠ "" ∧ Unmarked words.toList := normal.each (.text words) (by simp)
  have missing := text.2 suffix behind
  cases written with
  | nil => simpa using missing
  | cons next written =>
      have marker := normal.isText_next
      have clean := (Token.isNormal_iff_of_not_isText marker).1 (normal.each next (by simp))
      rw [List.flatMap_cons]
      exact Token.readMarker?_append_marker filled missing marker clean _

theorem IsNormal.addText_eq {words : String} {written : List Token}
    (normal : IsNormal (.text words :: written)) :
    Token.addText words.toList written = .text words :: written := by
  have text : words ≠ "" ∧ Unmarked words.toList := normal.each (.text words) (by simp)
  cases written with
  | nil => simp [Token.addText, text.1]
  | cons next written =>
      rw [Token.addText_of_not_isText normal.isText_next, if_neg (by simpa using text.1),
        String.ofList_toList]

theorem IsNormal.tokensFrom_source {written : List Token} (normal : IsNormal written) :
    tokensFrom [] (written.flatMap Token.source) = written := by
  induction written with
  | nil => simp [tokensFrom, Token.consText]
  | cons token written ih =>
      have rest := ih normal.tail
      rw [List.flatMap_cons]
      cases kind : token.isText with
      | true =>
          cases token with
          | text words =>
              rw [Token.source, tokensFrom_append normal.unpierced, rest, normal.addText_eq]
          | _ => cases kind
      | false =>
          have clean := (Token.isNormal_iff_of_not_isText kind).1 (normal.each token (by simp))
          rw [tokensFrom_marker kind clean, rest]

/-! ### Reading gives a normal form -/

theorem flatMap_source_consText (backward : List Char) (tokens : List Token) :
    (Token.consText backward tokens).flatMap Token.source =
      backward.reverse ++ tokens.flatMap Token.source := by
  cases backward with
  | nil => rfl
  | cons char backward => simp [Token.consText, Token.source]

/-- No sign of a format is lost or added in reading. -/
theorem flatMap_source_tokensFrom (backward source : List Char) :
    (tokensFrom backward source).flatMap Token.source = backward.reverse ++ source := by
  fun_induction tokensFrom backward source with
  | case1 backward => simp [flatMap_source_consText]
  | case2 backward char rest token after read ih =>
      rcases Token.readMarker?_eq_some_iff.1 read with ⟨-, -, whole⟩
      rw [flatMap_source_consText, List.flatMap_cons, ih, whole]
      rfl
  | case3 backward char rest missing ih => simp [ih]

theorem source_tokens_eq (format : String) : source (tokens format) = format := by
  rw [source, tokens, flatMap_source_tokensFrom, List.reverse_nil, List.nil_append,
    String.ofList_toList]

theorem readMarker?_eq_none_of_append {text rest : List Char}
    (missing : Token.readMarker? (text ++ rest) = none) : Token.readMarker? text = none := by
  rw [Option.eq_none_iff_forall_ne_some] at missing ⊢
  rintro ⟨token, after⟩ read
  rcases Token.readMarker?_eq_some_iff.1 read with ⟨marker, clean, rfl⟩
  apply missing (token, after ++ rest)
  exact Token.readMarker?_eq_some_iff.2 ⟨marker, clean, List.append_assoc _ _ _⟩

theorem Unpierced.unmarked {text rest : List Char} (unpierced : Unpierced text rest) :
    Unmarked text := by
  intro suffix behind
  cases suffix with
  | nil => rfl
  | cons char suffix =>
      exact readMarker?_eq_none_of_append (unpierced _ behind (List.cons_ne_nil _ _))

theorem unpierced_nil (rest : List Char) : Unpierced [] rest := by
  intro suffix behind filled
  exact absurd (List.suffix_nil.1 behind) filled

theorem Unpierced.append_singleton {text rest : List Char} {char : Char}
    (unpierced : Unpierced text (char :: rest))
    (missing : Token.readMarker? (char :: rest) = none) : Unpierced (text ++ [char]) rest := by
  intro suffix behind filled
  rcases List.suffix_concat_iff.1 behind with rfl | ⟨front, rfl, inside⟩
  · exact absurd rfl filled
  · rw [List.append_assoc, List.singleton_append]
    cases front with
    | nil => exact missing
    | cons first front => exact unpierced _ inside (List.cons_ne_nil _ _)

theorem IsNormal.marker_cons {token : Token} {written : List Token} (normal : IsNormal written)
    (marker : token.isText = false) (clean : token.IsClean) : IsNormal (token :: written) where
  each := by
    rw [List.forall_mem_cons]
    exact ⟨(Token.isNormal_iff_of_not_isText marker).2 clean, normal.each⟩
  apart := List.isChain_cons.2 ⟨fun _ _ => .inl marker, normal.apart⟩

theorem IsNormal.text_cons {words : String} {written : List Token} (normal : IsNormal written)
    (text : (Token.text words).IsNormal) (first : ∀ token ∈ written.head?, token.isText = false) :
    IsNormal (.text words :: written) where
  each := List.forall_mem_cons.2 ⟨text, normal.each⟩
  apart := List.isChain_cons.2 ⟨fun next present => .inr (first next present), normal.apart⟩

theorem IsNormal.consText {backward : List Char} {written : List Token} (normal : IsNormal written)
    (unmarked : Unmarked backward.reverse) (first : ∀ token ∈ written.head?, token.isText = false) :
    IsNormal (Token.consText backward written) := by
  cases backward with
  | nil => exact normal
  | cons char backward =>
      exact normal.text_cons ⟨by simp, by rwa [String.toList_ofList]⟩ first

theorem isNormal_tokensFrom {backward source : List Char}
    (unpierced : Unpierced backward.reverse source) : IsNormal (tokensFrom backward source) := by
  fun_induction tokensFrom backward source with
  | case1 backward => exact IsNormal.consText ⟨by simp, .nil⟩ unpierced.unmarked (by simp)
  | case2 backward char rest token after read ih =>
      rcases Token.readMarker?_eq_some_iff.1 read with ⟨marker, clean, -⟩
      have normal := ih (unpierced_nil after)
      apply (normal.marker_cons marker clean).consText unpierced.unmarked
      simpa using marker
  | case3 backward char rest missing ih =>
      apply ih
      rw [List.reverse_cons]
      exact unpierced.append_singleton missing

theorem isNormal_tokens (format : String) : IsNormal (tokens format) :=
  isNormal_tokensFrom (unpierced_nil _)

/--
Reading and writing are inverse to each other. The tokens of a format are in normal form and are
written as the format, and tokens in normal form are read back as they were.
-/
theorem source_tokens_and_tokens_eq :
    (∀ format, source (tokens format) = format ∧ IsNormal (tokens format)) ∧
      ∀ written, IsNormal written → tokens (source written) = written := by
  constructor
  · intro format
    constructor
    · rw [source, tokens, flatMap_source_tokensFrom, List.reverse_nil, List.nil_append,
        String.ofList_toList]
    · exact isNormal_tokensFrom (unpierced_nil _)
  · intro written normal
    rw [tokens, source, String.toList_ofList, normal.tokensFrom_source]

/-- A name without an end in front of a marker, and a slash at the end. -/
theorem source_tokens_and_tokens_eq_unended :
    IsNormal [.text "/?T|x", .file, .text "/"] ∧
      source [.text "/?T|x", .file, .text "/"] = "/?T|x/FILE|/" ∧
      tokens "/?T|x/FILE|/" = [.text "/?T|x", .file, .text "/"] := by
  have unmarked : Unmarked ['/', '?', 'T', '|', 'x'] ∧ Unmarked ['/'] := by
    simp only [Unmarked, ← List.mem_tails]
    decide
  have normal : IsNormal [.text "/?T|x", .file, .text "/"] := by
    refine ⟨?_, by simp [Token.isText]⟩
    simp only [List.forall_mem_cons]
    exact ⟨⟨by decide, unmarked.1⟩, trivial, ⟨by decide, unmarked.2⟩, by simp⟩
  exact ⟨normal, rfl, source_tokens_and_tokens_eq.2 _ normal⟩

end Template

end TagOrganizer
