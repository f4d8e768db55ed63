import Mathlib.Data.List.Infix
import TagOrganizer.Text.Fragment

/-!
# Fragments of joined texts

A text without the separator is one fragment, and a separator of one character keeps what stands
before it apart from what stands behind it. So does any separator whose first character does not
come again in it: then the fragments of a text are the only texts without the separator that it can
be joined from (`fragments_intercalate`, `not_infix_of_mem_fragments`).
-/

namespace TagOrganizer

namespace Text

theorem consFirst_append (char : Char) {front : List (List Char)} (filled : front ≠ [])
    (back : List (List Char)) :
    consFirst char (front ++ back) = consFirst char front ++ back := by
  cases front with
  | nil => exact absurd rfl filled
  | cons fragment front => rfl

theorem fragments_append_separator (separator : Char) (front back : List Char) :
    fragments separator [] (front ++ separator :: back) =
      fragments separator [] front ++ fragments separator [] back := by
  induction front with
  | nil => simp [fragments, stripFront?]
  | cons char front ih =>
      rw [List.cons_append, fragments, fragments]
      split
      · simp [stripFront?, ih]
      · rw [ih]
        exact consFirst_append char (fragments_ne_nil _ _ _) _

/-! ### Separators that do not overlap -/

section Separator

variable {first : Char} {more piece rest : List Char}

theorem fragments_of_some {text : List Char} (stripped : stripFront? more text = some rest) :
    fragments first more (first :: text) = [] :: fragments first more rest := by
  rw [fragments, if_pos rfl]
  split
  · rename_i other again
    rw [stripped] at again
    cases again
    rfl
  · rename_i missing
    rw [stripped] at missing
    cases missing

theorem fragments_of_none {char : Char} {text : List Char}
    (apart : char = first → stripFront? more text = none) :
    fragments first more (char :: text) = consFirst char (fragments first more text) := by
  rw [fragments]
  split
  · rename_i same
    split
    · rename_i other stripped
      rw [apart same] at stripped
      cases stripped
    · rfl
  · rfl

theorem infix_of_stripFront? (stripped : stripFront? more piece = some rest) :
    first :: more <:+: first :: piece := by
  rw [stripFront?_eq_some_iff.1 stripped]
  exact (List.prefix_append (first :: more) rest).isInfix

/-- A text without the separator has it nowhere, also not together with what follows the text. -/
theorem stripFront?_append_eq_none (single : first ∉ more)
    (absent : ¬first :: more <:+: first :: piece) (rest : List Char) :
    stripFront? more (piece ++ first :: rest) = none := by
  rw [Option.eq_none_iff_forall_ne_some]
  intro other stripped
  rcases List.append_eq_append_iff.1 (stripFront?_eq_some_iff.1 stripped) with
    ⟨inner, whole, behind⟩ | ⟨inner, whole, -⟩
  · -- The separator would begin again within itself.
    cases inner with
    | nil =>
        rw [List.append_nil] at whole
        exact absent (by rw [whole])
    | cons next inner =>
        rw [(List.cons.inj behind).1, whole] at single
        simp at single
  · exact absent (infix_of_stripFront? (stripFront?_eq_some_iff.2 whole))

theorem fragments_of_not_infix (absent : ¬first :: more <:+: piece) :
    fragments first more piece = [piece] := by
  induction piece with
  | nil => simp [fragments]
  | cons char piece ih =>
      have apart : char = first → stripFront? more piece = none := by
        rintro rfl
        rw [Option.eq_none_iff_forall_ne_some]
        intro rest stripped
        exact absent (infix_of_stripFront? stripped)
      rw [fragments_of_none apart, ih (mt List.infix_cons absent)]
      rfl

theorem fragments_of_not_mem (more : List Char) (absent : first ∉ piece) :
    fragments first more piece = [piece] :=
  fragments_of_not_infix fun inside => absent (inside.subset (by simp))

/-- A separator that follows a text without it is the first one. -/
theorem fragments_append_of_not_infix (single : first ∉ more)
    (absent : ¬first :: more <:+: piece) (rest : List Char) :
    fragments first more (piece ++ first :: (more ++ rest)) =
      piece :: fragments first more rest := by
  induction piece with
  | nil => exact fragments_of_some (stripFront?_append more rest)
  | cons char piece ih =>
      have apart : char = first → stripFront? more (piece ++ first :: (more ++ rest)) = none := by
        rintro rfl
        exact stripFront?_append_eq_none single absent _
      rw [List.cons_append, fragments_of_none apart, ih (mt List.infix_cons absent)]
      rfl

/-- Texts without the separator are the fragments of what is joined from them. -/
theorem fragments_intercalate (single : first ∉ more) {pieces : List (List Char)}
    (filled : pieces ≠ []) (absent : ∀ piece ∈ pieces, ¬first :: more <:+: piece) :
    fragments first more ((first :: more).intercalate pieces) = pieces := by
  induction pieces with
  | nil => exact absurd rfl filled
  | cons piece pieces ih =>
      have here := absent piece (by simp)
      cases pieces with
      | nil => simpa [List.intercalate] using fragments_of_not_infix here
      | cons next pieces =>
          have others := ih (by simp) fun other present => absent other (by simp [present])
          have shape : (first :: more).intercalate (piece :: next :: pieces) =
              piece ++ first :: (more ++ (first :: more).intercalate (next :: pieces)) := by
            simp [List.intercalate]
          rw [shape, fragments_append_of_not_infix single here, others]

theorem prefix_of_fragments_eq_cons {text fragment : List Char} {others : List (List Char)}
    (shape : fragments first more text = fragment :: others) : fragment <+: text := by
  have whole := join_fragments first more text
  rw [shape] at whole
  cases others with
  | nil => simp [← whole, List.intercalate]
  | cons next others => simp [← whole, List.intercalate]

/-- A character that begins no separator is put in front of a fragment without the separator. -/
theorem not_infix_of_mem_consFirst {char : Char} {text fragment : List Char}
    (apart : char = first → stripFront? more text = none)
    (absent : ∀ fragment ∈ fragments first more text, ¬first :: more <:+: fragment)
    (present : fragment ∈ consFirst char (fragments first more text)) :
    ¬first :: more <:+: fragment := by
  cases shape : fragments first more text with
  | nil => exact absurd shape (fragments_ne_nil _ _ _)
  | cons front others =>
      rw [shape] at absent present
      rcases List.mem_cons.1 present with rfl | behind
      · rw [List.infix_cons_iff, List.cons_prefix_cons]
        rintro (⟨rfl, begins⟩ | inside)
        · rcases begins.trans (prefix_of_fragments_eq_cons shape) with ⟨rest, rfl⟩
          rw [stripFront?_append] at apart
          cases apart rfl
        · exact absent front (by simp) inside
      · exact absent fragment (by simp [behind])

theorem not_infix_of_mem_fragments {text fragment : List Char}
    (present : fragment ∈ fragments first more text) : ¬first :: more <:+: fragment := by
  fun_induction fragments first more text generalizing fragment with
  | case1 => simp_all
  | case2 text rest stripped ih =>
      rcases List.mem_cons.1 present with rfl | behind
      · simp
      · exact ih behind
  | case3 text stripped ih =>
      exact not_infix_of_mem_consFirst (fun _ => stripped) (fun _ among => ih among) present
  | case4 char text different ih =>
      exact not_infix_of_mem_consFirst (fun same => absurd same different)
        (fun _ among => ih among) present

end Separator

end Text

end TagOrganizer
