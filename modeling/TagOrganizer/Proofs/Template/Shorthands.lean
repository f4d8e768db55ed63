import Mathlib.Data.List.Flatten
import TagOrganizer.Proofs.Template.Normal
import TagOrganizer.Template.Substitution

/-!
# Choices as conditionals

A format whose choices are written as conditionals is read as the conditionals that were meant,
whatever stands around the choices (`tokens_simplify`): a conditional begins and ends with a marker,
and the texts in it hold no marker. All other tokens stay as they are. No choice is left behind
then, so that there is nothing to do a second time (`tokens_simplify_and_simplify_again`).
-/

namespace TagOrganizer

namespace Template

theorem Inert.unmarked {text : List Char} (inert : Inert text) : Unmarked text :=
  (inert.unpierced []).unmarked

/-! ### Normal forms of conditionals -/

theorem isText_head?_asConditional {token : Token} (marker : token.isText = false)
    (written : List Token) :
    ∀ first ∈ (token.asConditional ++ written).head?, first.isText = false := by
  cases token with
  | text words => cases marker
  | _ => simp [Token.asConditional, Token.isText]

theorem isText_head?_flatMap_asConditional {written : List Token}
    (marker : ∀ first ∈ written.head?, first.isText = false) :
    ∀ first ∈ (written.flatMap Token.asConditional).head?, first.isText = false := by
  cases written with
  | nil => simp
  | cons token written =>
      rw [List.flatMap_cons]
      exact isText_head?_asConditional (marker token rfl) _

/-- A conditional with the same text in its condition as in one branch, in front of other tokens. -/
theorem IsNormal.conditional {condition name : String} {written : List Token}
    (normal : IsNormal written) (conditional : condition ≠ "" ∧ Inert condition.toList)
    (named : name ≠ "" ∧ Inert name.toList) :
    IsNormal (.conditionStart :: .text condition :: .whenTrue :: .text name :: .whenFalse ::
      .conditionEnd :: written) := by
  have ended : IsNormal (.conditionEnd :: written) := normal.marker_cons rfl trivial
  have declined : IsNormal (.whenFalse :: .conditionEnd :: written) :=
    ended.marker_cons rfl trivial
  have granted := declined.text_cons ⟨named.1, named.2.unmarked⟩ (by simp [Token.isText])
  have decided : IsNormal (.whenTrue :: .text name :: .whenFalse :: .conditionEnd :: written) :=
    granted.marker_cons rfl trivial
  have asked := decided.text_cons ⟨conditional.1, conditional.2.unmarked⟩ (by simp [Token.isText])
  exact asked.marker_cons rfl trivial

theorem IsNormal.flatMap_asConditional {written : List Token} (normal : IsNormal written) :
    IsNormal (written.flatMap Token.asConditional) := by
  induction written with
  | nil => exact normal
  | cons token written ih =>
      have rest := ih normal.tail
      have each := normal.each token (by simp)
      rw [List.flatMap_cons]
      cases token with
      | text words =>
          have next : ∀ first ∈ written.head?, first.isText = false := by
            intro first present
            rcases List.head?_eq_some_iff.1 present with ⟨others, rfl⟩
            exact normal.isText_next
          exact rest.text_cons each (isText_head?_flatMap_asConditional next)
      | tagChoice tag =>
          have named : tag ≠ "" ∧ Inert tag.toList := ⟨each.1, inert_of_not_mem each.2⟩
          exact rest.conditional named named
      | groupChoice group =>
          have named : group ≠ "" ∧ Inert group.toList := ⟨each.1, inert_of_not_mem each.2⟩
          have mark : Inert Condition.groupMark := by
            simp [Inert, Condition.groupMark, markerHeads]
          refine rest.conditional ⟨by simp [Condition.groupMark], ?_⟩ named
          simpa using mark.append named.2
      | tagInGroup group =>
          exact rest.marker_cons rfl ((Token.isNormal_iff_of_not_isText rfl).1 each)
      | _ => exact rest.marker_cons rfl trivial

/-- Each choice is read as a conditional, and all other tokens are read as before. -/
theorem tokens_simplify (format : String) :
    tokens (simplify format) = (tokens format).flatMap Token.asConditional := by
  have normal := (isNormal_tokens format).flatMap_asConditional
  rw [simplify, tokens, source, String.toList_ofList, normal.tokensFrom_source]

/-! ### What is left to write -/

/-- Whether a token is the choice of a tag or of a group. -/
def Token.isChoice : Token → Bool
  | tagChoice _ => true
  | groupChoice _ => true
  | _ => false

/-- The tokens that stand for a token where choices are written as conditionals. -/
inductive Token.WrittenOut : Token → List Token → Prop where
  | tagChoice (tag : String) :
      WrittenOut (.tagChoice tag)
        [.conditionStart, .text tag, .whenTrue, .text tag, .whenFalse, .conditionEnd]
  /-- The condition asks for the group, and the branch holds its name. -/
  | groupChoice (group : String) :
      WrittenOut (.groupChoice group)
        [.conditionStart, .text ("/G|" ++ group), .whenTrue, .text group, .whenFalse,
          .conditionEnd]
  | other {token : Token} (plain : token.isChoice = false) : WrittenOut token [token]

theorem Token.writtenOut_asConditional (token : Token) :
    token.WrittenOut token.asConditional := by
  cases token with
  | tagChoice tag => exact .tagChoice tag
  | groupChoice group =>
      have mark : String.ofList (Condition.groupMark ++ group.toList) = "/G|" ++ group := by
        apply String.toList_injective
        simp [Condition.groupMark]
      rw [asConditional, mark]
      exact .groupChoice group
  | _ => exact .other rfl

theorem Token.isChoice_of_mem_asConditional {token written : Token}
    (present : written ∈ token.asConditional) : written.isChoice = false := by
  cases token <;>
    simp only [asConditional, List.mem_cons, List.not_mem_nil, or_false] at present <;>
    grind [isChoice]

theorem flatMap_asConditional_of_no_choice {written : List Token}
    (plain : ∀ token ∈ written, token.isChoice = false) :
    written.flatMap Token.asConditional = written := by
  have kept : ∀ token ∈ written, token.asConditional = [token] := by
    intro token present
    have noChoice := plain token present
    cases token with
    | tagChoice _ => cases noChoice
    | groupChoice _ => cases noChoice
    | _ => rfl
  rw [List.flatMap_congr kept, List.flatMap_singleton']

theorem tagInGroup_mem_flatMap_asConditional {group : String} {written : List Token} :
    Token.tagInGroup group ∈ written.flatMap Token.asConditional ↔
      Token.tagInGroup group ∈ written := by
  induction written with
  | nil => rfl
  | cons token written ih =>
      rw [List.flatMap_cons, List.mem_append, ih]
      cases token <;> simp [Token.asConditional]

/--
A format with its choices written as conditionals has the tokens of the format itself, except that
each choice has given way to its conditional. So no choice is left, and writing the choices of the
result as conditionals changes nothing.
-/
theorem tokens_simplify_and_simplify_again (format : String) :
    (∃ pieces, List.Forall₂ Token.WrittenOut (tokens format) pieces ∧
        tokens (simplify format) = pieces.flatten) ∧
      (∀ token ∈ tokens (simplify format), token.isChoice = false) ∧
      simplify (simplify format) = simplify format := by
  have plain : ∀ token ∈ tokens (simplify format), token.isChoice = false := by
    intro token present
    rw [tokens_simplify, List.mem_flatMap] at present
    rcases present with ⟨original, -, among⟩
    exact Token.isChoice_of_mem_asConditional among
  refine ⟨⟨(tokens format).map Token.asConditional, ?_, ?_⟩, plain, ?_⟩
  · rw [List.forall₂_map_right_iff, List.forall₂_same]
    exact fun token _ => token.writtenOut_asConditional
  · rw [tokens_simplify, List.flatMap_def]
  · rw [simplify, flatMap_asConditional_of_no_choice plain, source_tokens_eq]

end Template

end TagOrganizer
