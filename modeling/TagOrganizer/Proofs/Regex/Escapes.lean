import Mathlib
import TagOrganizer.Proofs.Regex.Followed

/-!
# Escapes that are followed by a closing parenthesis

Reading a code, a word edge, the name of a class or another escape gives the same with a closing
parenthesis behind the source, or it reads too far (`tracks_readEscape`): a backslash at the end of
a pattern takes the parenthesis for the escaped character, `\p` there takes it for the name of a
class, and a brace behind a word edge, which would begin the name of a condition, is none where the
parenthesis follows it (`Overread`).
-/

namespace TagOrganizer

namespace Regex

variable {comment : Prop} {tail first second : Source} {flags : Flags}

/-! ### Codes -/

theorem tracks_readHex (closing : IsClosing tail) {count value : Nat}
    (follows : Follows comment tail first second) :
    Tracks (Alike comment tail (first.length + 1)) Never (readHex flags count value first)
      (readHex flags count value second) := by
  induction count generalizing value first second with
  | zero => exact .same follows (Nat.lt_succ_self _)
  | succ count ih =>
      rcases follows.head closing with ⟨rfl, rfl⟩ | ⟨rfl, rfl, anchors, rfl, -⟩ |
        ⟨char, rest, behind, rfl, rfl, goesOn⟩
      · exact .failed
      · exact .failed
      · simp only [readHex]
        cases hexValue? char with
        | none => exact .failed
        | some digit =>
            have shorter := length_skipSpace_le flags rest
            exact (ih (goesOn.skipSpace closing flags)).widen (by rw [List.length_cons]; omega)

theorem tracks_readBracedHex (closing : IsClosing tail) {room room' value count : Nat}
    (enough : first.length < room) (enough' : second.length < room')
    (follows : Follows comment tail first second) :
    Tracks (Alike comment tail (first.length + 1)) Never
      (readBracedHex flags room value count first)
      (readBracedHex flags room' value count second) := by
  induction room generalizing room' value count first second with
  | zero => omega
  | succ room ih =>
      cases room' with
      | zero => omega
      | succ room' =>
          have shorter := length_skipSpace_le flags first
          have shorter' := length_skipSpace_le flags second
          have spaced := follows.skipSpace closing flags
          simp only [readBracedHex]
          generalize skipSpace flags first = left, skipSpace flags second = right at *
          rcases spaced.head closing with ⟨rfl, rfl⟩ | ⟨rfl, rfl, anchors, rfl, -⟩ |
            ⟨char, rest, behind, rfl, rfl, goesOn⟩
          · exact .failed
          · exact .failed
          · rw [List.length_cons] at shorter shorter'
            by_cases brace : char = '\x7d'
            · subst brace
              have shorterRest := length_skipSpace_le flags rest
              simp only
              split
              · exact .failed
              · exact .same (goesOn.skipSpace closing flags) (by omega)
            · simp only
              cases hexValue? char with
              | none => exact .failed
              | some digit =>
                  simp only [Option.bind_eq_bind, Option.bind_some]
                  split
                  · exact .failed
                  · exact (ih (by omega) (by omega) goesOn).widen (by omega)

theorem tracks_readByte (closing : IsClosing tail) (follows : Follows comment tail first second) :
    Tracks (Alike comment tail (first.length + 1)) Never (readByte flags first)
      (readByte flags second) := by
  refine (tracks_readHex closing follows).bind_never ?_
  rintro ⟨code, rest⟩ ⟨-, behind⟩ ⟨rfl, goesOn, short⟩
  simp only
  split
  · exact .failed
  · exact .same goesOn short

/-- The character with the code that has been read. -/
def withChar? (read : Nat × Source) : Option (Char × Source) :=
  (charOf? read.1).bind fun char => some (char, read.2)

theorem tracks_withChar {bound : Nat} (first second : Nat × Source)
    (alike : Alike comment tail bound first second) :
    Tracks (Alike comment tail bound) Never (withChar? first) (withChar? second) := by
  rcases alike with ⟨same, goesOn, short⟩
  rw [withChar?, withChar?, same]
  cases charOf? second.1 with
  | none => exact .failed
  | some char => exact .same goesOn short

theorem readCode_braced {count : Nat} {source rest : Source}
    (braced : skipSpace flags source = '\x7b' :: rest) :
    readCode flags count source =
      (readBracedHex flags (rest.length + 1) 0 0 rest).bind withChar? := by
  rw [readCode, braced]
  rfl

theorem readCode_bare {count : Nat} {source : Source}
    (bare : ∀ rest, skipSpace flags source ≠ '\x7b' :: rest) :
    readCode flags count source =
      (if count = 2 then readByte flags (skipSpace flags source)
        else readHex flags count 0 (skipSpace flags source)).bind withChar? := by
  rw [readCode]
  split
  · exact absurd ‹_› (bare _)
  · split <;> rfl

theorem tracks_readCode (closing : IsClosing tail) {count : Nat}
    (follows : Follows comment tail first second) :
    Tracks (Alike comment tail (first.length + 1)) Never (readCode flags count first)
      (readCode flags count second) := by
  have shorter := length_skipSpace_le flags first
  have spaced := follows.skipSpace closing flags
  by_cases braced : ∃ rest, skipSpace flags first = '\x7b' :: rest
  · rcases braced with ⟨rest, braced⟩
    rw [braced] at spaced shorter
    rcases spaced.of_cons with ⟨behind, bracedBehind, goesOn⟩
    rw [List.length_cons] at shorter
    rw [readCode_braced braced, readCode_braced bracedBehind]
    exact ((tracks_readBracedHex closing (by omega) (by omega) goesOn).widen (by omega)).bind_never
      tracks_withChar
  · rw [readCode_bare (not_exists.1 braced),
      readCode_bare (spaced.ne_cons closing (by decide) (not_exists.1 braced))]
    split
    · exact ((tracks_readByte closing spaced).widen (by omega)).bind_never tracks_withChar
    · exact ((tracks_readHex closing spaced).widen (by omega)).bind_never tracks_withChar

/-! ### Word edges -/

/--
What is left after a piece that has been read too far: nothing but anchors, or the brace behind a
word edge, which begins a condition only where something follows it.
-/
inductive Overread (flags : Flags) (tail : Source) : Piece × Source → Prop where
  | anchors {piece : Piece} {rest : Source} (all : ∀ char ∈ rest, char = '$') :
      Overread flags tail (piece, rest)
  | brace {condition : Look} {rest : Source} (bare : skipSpace flags rest = tail) :
      Overread flags tail (.look condition, '\x7b' :: rest)

theorem tracks_readEdgeName (closing : IsClosing tail) {room room' : Nat} {name : List Char}
    (enough : first.length < room) (enough' : second.length < room')
    (follows : Follows comment tail first second) :
    Tracks (Alike comment tail first.length) Never (readEdgeName flags room name first)
      (readEdgeName flags room' name second) := by
  induction room generalizing room' name first second with
  | zero => omega
  | succ room ih =>
      cases room' with
      | zero => omega
      | succ room' =>
          simp only [readEdgeName]
          rcases follows.head closing with ⟨rfl, rfl⟩ | ⟨rfl, rfl, anchors, rfl, -⟩ |
            ⟨char, rest, behind, rfl, rfl, goesOn⟩
          · exact .failed
          · exact .failed
          · rw [List.length_cons] at enough enough'
            by_cases brace : char = '\x7d'
            · subst brace
              exact .same goesOn (Nat.lt_succ_self _)
            · have shorter := length_skipSpace_le flags rest
              have shorter' := length_skipSpace_le flags behind
              simp only
              split
              · exact (ih (by omega) (by omega) (goesOn.skipSpace closing flags)).widen
                  (by rw [List.length_cons]; omega)
              · exact .failed

/-- The condition with a name. -/
def edge? (isWord : CharSet) (name : String) : Option Look :=
  match name with
  | "start" => some (.wordStart isWord)
  | "end" => some (.wordEnd isWord)
  | "start-half" => some (.noWordBefore isWord)
  | "end-half" => some (.noWordAfter isWord)
  | _ => none

/-- The condition that has been read and what is left, if there is such a condition. -/
def withEdge? (isWord : CharSet) (read : String × Source) : Option (Look × Source) :=
  (edge? isWord read.1).map fun condition => (condition, read.2)

theorem readEdge_named {source inner : Source} {char : Char}
    (begins : skipSpace flags source = char :: inner)
    (named : (char.isAlpha || char = '-') = true) :
    readEdge flags ('\x7b' :: source) =
      (readEdgeName flags (inner.length + 2) [] (char :: inner)).bind
        (withEdge? (wordSet flags)) := by
  rw [readEdge]
  simp only [begins, named, if_true]
  congr 1
  funext ⟨name, rest⟩
  simp only [withEdge?, edge?.eq_def]
  split <;> simp

theorem readEdge_unnamed {source inner : Source} {char : Char}
    (begins : skipSpace flags source = char :: inner)
    (unnamed : (char.isAlpha || char = '-') = false) :
    readEdge flags ('\x7b' :: source) = some (.wordEdge (wordSet flags), '\x7b' :: source) := by
  rw [readEdge]
  simp [begins, unnamed]

theorem readEdge_other {source : Source} (other : ∀ rest, source ≠ '\x7b' :: rest) :
    readEdge flags source = some (.wordEdge (wordSet flags), source) := by
  rw [readEdge]
  exact fun rest same => other rest same

theorem tracks_readEdge (closing : IsClosing tail) (follows : Follows comment tail first second) :
    Tracks (Alike comment tail (first.length + 1))
      (fun read => Overread flags tail (.look read.1, read.2)) (readEdge flags first)
      (readEdge flags second) := by
  by_cases braced : ∃ rest, first = '\x7b' :: rest
  · rcases braced with ⟨rest, rfl⟩
    rcases follows.of_cons with ⟨behind, rfl, goesOn⟩
    have shorter := length_skipSpace_le flags rest
    rcases (goesOn.skipSpace closing flags).head closing with ⟨none, none'⟩ |
      ⟨none, bare, anchors, isTail, -⟩ | ⟨char, inner, inner', begins, begins', further⟩
    · simp only [readEdge, none, none']
      exact .failed
    · have unnamed : (')'.isAlpha || decide (')' = '-')) = false := by decide
      rw [readEdge_unnamed (bare.trans isTail) unnamed, readEdge]
      simp only [none]
      exact .late (.brace bare)
    · cases named : char.isAlpha || char = '-' with
      | true =>
          rw [readEdge_named begins named, readEdge_named begins' named]
          rw [begins, List.length_cons] at shorter
          have name : Tracks (Alike comment tail (char :: inner).length) Never
              (readEdgeName flags (inner.length + 2) [] (char :: inner))
              (readEdgeName flags (inner'.length + 2) [] (char :: inner')) := by
            have whole := goesOn.skipSpace closing flags
            rw [begins, begins'] at whole
            exact tracks_readEdgeName closing (by simp) (by simp) whole
          refine name.bind_never ?_
          rintro ⟨name, left⟩ ⟨-, left'⟩ ⟨rfl, after, short⟩
          rw [withEdge?, withEdge?]
          cases edge? (wordSet flags) name with
          | none => exact .failed
          | some condition =>
              rw [List.length_cons] at short ⊢
              exact .same after (by omega)
      | false =>
          rw [readEdge_unnamed begins named, readEdge_unnamed begins' named]
          exact .same follows (Nat.lt_succ_self _)
  · rw [readEdge_other (not_exists.1 braced),
      readEdge_other (follows.ne_cons closing (by decide) (not_exists.1 braced))]
    exact .same follows (Nat.lt_succ_self _)

/-! ### Classes -/

/-- No brace closes the name of a class behind the text. -/
theorem readClassName_unclosed {room : Nat} {name : List Char} {source : Source}
    (unclosed : ∀ char ∈ source, char = ')' ∨ char = '$') :
    readClassName flags room name source = none := by
  induction room generalizing name source with
  | zero => rw [readClassName]
  | succ room ih =>
      rw [readClassName, skipSpace_unclosed flags unclosed]
      cases source with
      | nil => rfl
      | cons char rest =>
          rw [List.forall_mem_cons] at unclosed
          rcases unclosed with ⟨rfl | rfl, unclosed⟩
          · exact ih unclosed
          · exact ih unclosed

theorem tracks_readClassName (closing : IsClosing tail) {room room' : Nat} {name : List Char}
    (enough : first.length < room) (enough' : second.length < room')
    (follows : Follows comment tail first second) :
    Tracks (Alike comment tail (first.length + 1)) Never (readClassName flags room name first)
      (readClassName flags room' name second) := by
  induction room generalizing room' name first second with
  | zero => omega
  | succ room ih =>
      cases room' with
      | zero => omega
      | succ room' =>
          have shorter := length_skipSpace_le flags first
          have shorter' := length_skipSpace_le flags second
          have spaced := follows.skipSpace closing flags
          simp only [readClassName]
          generalize skipSpace flags first = left, skipSpace flags second = right at *
          rcases spaced.head closing with ⟨rfl, rfl⟩ | ⟨rfl, rfl, anchors, rfl, all⟩ |
            ⟨char, rest, behind, rfl, rfl, goesOn⟩
          · exact .failed
          · change Tracks _ _ none (readClassName flags room' (')' :: name) anchors)
            rw [readClassName_unclosed fun char among => .inr (all char among)]
            exact .failed
          · rw [List.length_cons] at shorter shorter'
            by_cases brace : char = '\x7d'
            · subst brace
              exact .same goesOn (by omega)
            · simp only
              exact (ih (by omega) (by omega) goesOn).widen (by omega)

/-- A class has been named by the parenthesis, so that nothing is left but anchors. -/
def Misnamed (read : List Char × Source) : Prop :=
  ∀ char ∈ read.2, char = '$'

theorem tracks_readClass (closing : IsClosing tail) (follows : Follows comment tail first second) :
    Tracks (Alike comment tail (first.length + 1)) Misnamed (readClass flags first)
      (readClass flags second) := by
  have shorter := length_skipSpace_le flags first
  have spaced := follows.skipSpace closing flags
  simp only [readClass]
  generalize skipSpace flags first = left, skipSpace flags second = right at *
  rcases spaced.head closing with ⟨rfl, rfl⟩ | ⟨rfl, rfl, anchors, rfl, all⟩ |
    ⟨char, rest, behind, rfl, rfl, goesOn⟩
  · exact .failed
  · change Tracks _ _ none (some ([')'], skipSpace flags anchors))
    rw [skipSpace_unclosed flags fun char among => .inr (all char among)]
    exact .late all
  · rw [List.length_cons] at shorter
    by_cases brace : char = '\x7b'
    · subst brace
      have name : Tracks (Alike comment tail (rest.length + 1)) Never
          (readClassName flags (rest.length + 1) [] rest)
          (readClassName flags (behind.length + 1) [] behind) :=
        tracks_readClassName closing (Nat.lt_succ_self _) (Nat.lt_succ_self _) goesOn
      exact (name.widen (by omega)).mono (fun _ _ same => same) fun _ never => never.elim
    by_cases escaped : char = '\\'
    · subst escaped
      exact .failed
    · have shorterRest := length_skipSpace_le flags rest
      simp only
      exact .same (goesOn.skipSpace closing flags) (by omega)

/-- The class with the name that has been read and what is left, if there is such a class. -/
def withClass? (flags : Flags) (negated : Bool) (read : List Char × Source) :
    Option (Piece × Source) :=
  (classPiece? flags negated read.1).map fun piece => (piece, read.2)

theorem readClassPiece_eq (flags : Flags) (negated : Bool) (source : Source) :
    readClassPiece flags negated source =
      (readClass flags source).bind (withClass? flags negated) := by
  rw [readClassPiece]
  congr 1
  funext ⟨name, rest⟩
  simp only [withClass?]
  cases classPiece? flags negated name <;> rfl

theorem tracks_readClassPiece (closing : IsClosing tail) (negated : Bool)
    (follows : Follows comment tail first second) :
    Tracks (Alike comment tail (first.length + 1)) (Overread flags tail)
      (readClassPiece flags negated first) (readClassPiece flags negated second) := by
  rw [readClassPiece_eq, readClassPiece_eq]
  refine (tracks_readClass closing follows).bind ?_ ?_
  · rintro ⟨name, rest⟩ ⟨-, behind⟩ ⟨rfl, goesOn, short⟩
    rw [withClass?, withClass?]
    cases classPiece? flags negated name with
    | none => exact .failed
    | some piece => exact .same goesOn short
  · rintro ⟨name, rest⟩ all
    rw [withClass?]
    cases classPiece? flags negated name with
    | none => exact .failed
    | some piece => exact .late (.anchors all)

/-! ### Escapes in general -/

/-- The condition that a backslash and a letter stand for. -/
def letterLook? (isWord : CharSet) (char : Char) : Option Look :=
  match char with
  | 'A' => some .textStart
  | 'z' => some .textEnd
  | 'B' => some (.noWordEdge isWord)
  | '<' => some (.wordStart isWord)
  | '>' => some (.wordEnd isWord)
  | _ => none

/-- An escape is one character long, or a code, a word edge or the name of a class follows. -/
theorem readEscape_cons (flags : Flags) (char : Char) :
    (∃ piece : Option Piece,
        ∀ rest, readEscape flags (char :: rest) = piece.map fun piece => (piece, rest)) ∨
      (∃ count, ∀ rest, readEscape flags (char :: rest) =
        (readCode flags count rest).map fun read => (.char read.1, read.2)) ∨
      (∀ rest, readEscape flags (char :: rest) =
        (readEdge flags rest).map fun read => (.look read.1, read.2)) ∨
      ∃ negated, ∀ rest,
        readEscape flags (char :: rest) = readClassPiece flags negated rest := by
  by_cases digit : char.isDigit = true
  · exact .inl ⟨none, fun rest => by simp [readEscape, digit]⟩
  by_cases escapable : isEscapable char = true
  · exact .inl ⟨some (.char char), fun rest => by simp [readEscape, digit, escapable]⟩
  by_cases meant : ∃ other, letterEscape? char = some other
  · rcases meant with ⟨other, meant⟩
    exact .inl ⟨some (.char other), fun rest => by simp [readEscape, digit, escapable, meant]⟩
  rw [← Option.isSome_iff_exists, Option.not_isSome_iff_eq_none] at meant
  by_cases holds : ∃ set, letterSet? flags char = some set
  · rcases holds with ⟨set, holds⟩
    exact .inl ⟨some (.set set), fun rest => by
      simp [readEscape, digit, escapable, meant, holds]⟩
  rw [← Option.isSome_iff_exists, Option.not_isSome_iff_eq_none] at holds
  by_cases two : char = 'x'
  · subst two
    exact .inr (.inl ⟨2, fun rest => by simp [readEscape, digit, escapable, meant, holds]⟩)
  by_cases four : char = 'u'
  · subst four
    exact .inr (.inl ⟨4, fun rest => by simp [readEscape, digit, escapable, meant, holds]⟩)
  by_cases eight : char = 'U'
  · subst eight
    exact .inr (.inl ⟨8, fun rest => by simp [readEscape, digit, escapable, meant, holds]⟩)
  by_cases edge : char = 'b'
  · subst edge
    exact .inr (.inr (.inl fun rest => by simp [readEscape, digit, escapable, meant, holds]))
  by_cases classed : char = 'p'
  · subst classed
    exact .inr (.inr (.inr ⟨false, fun rest => by
      simp [readEscape, digit, escapable, meant, holds]⟩))
  by_cases others : char = 'P'
  · subst others
    exact .inr (.inr (.inr ⟨true, fun rest => by
      simp [readEscape, digit, escapable, meant, holds]⟩))
  refine .inl ⟨(letterLook? (wordSet flags) char).map Piece.look, fun rest => ?_⟩
  have neither : readEscape flags (char :: rest) =
      (letterLook? (wordSet flags) char).map fun condition => (.look condition, rest) := by
    simp only [readEscape, digit, escapable, meant, holds, letterLook?.eq_def,
      Bool.false_eq_true, if_false]
    split <;> simp_all
  rw [neither, Option.map_map]
  rfl

theorem tracks_readEscape (closing : IsClosing tail) (follows : Follows comment tail first second) :
    Tracks (Alike comment tail first.length) (Overread flags tail) (readEscape flags first)
      (readEscape flags second) := by
  rcases follows.head closing with ⟨rfl, rfl⟩ | ⟨rfl, rfl, anchors, rfl, all⟩ |
    ⟨char, rest, behind, rfl, rfl, goesOn⟩
  · exact .failed
  · exact .late (.anchors all)
  · rcases readEscape_cons flags char with ⟨piece, short⟩ | ⟨count, code⟩ | edge |
      ⟨negated, named⟩
    · rw [short, short]
      cases piece with
      | none => exact .failed
      | some piece => exact .same goesOn (Nat.lt_succ_self _)
    · rw [code, code]
      refine (tracks_readCode closing goesOn).map_never ?_
      rintro ⟨char, rest⟩ ⟨-, behind⟩ ⟨rfl, further, short⟩
      exact ⟨rfl, further, short⟩
    · rw [edge, edge]
      refine (tracks_readEdge closing goesOn).map ?_ fun _ late => late
      rintro ⟨condition, rest⟩ ⟨-, behind⟩ ⟨rfl, further, short⟩
      exact ⟨rfl, further, short⟩
    · rw [named, named]
      exact tracks_readClassPiece closing negated goesOn

end Regex

end TagOrganizer
