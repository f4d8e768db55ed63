import TagOrganizer.Proofs.Selection.Reading
import TagOrganizer.Proofs.Template.Reading
import TagOrganizer.Proofs.Template.Result

/-!
# Rendering token by token

Outside of conditionals each token comes out on its own, in front of what follows it, wherever texts
are cut. A conditional whose condition can be read comes out as the branch that its condition asks
for (`result_render_conditional`).
-/

namespace TagOrganizer

namespace Template

variable {file : TaggedFile} {resolver : Resolver} {format : String}

namespace Token

/-- Whether a token is one of the markers that only make sense with spans. -/
def isSpanMarker : Token → Bool
  | spanStart => true
  | spanEnd => true
  | occurrence => true
  | _ => false

/-- What a token comes out as outside of conditionals. -/
def output (file : TaggedFile) (resolver : Resolver) : Token → List Char
  | text words => words.toList
  | .file => file.baseName.toList
  | extension => file.extension.toList
  | tags => file.tagSection.toList
  | tagInGroup group => ((resolver.representative file.tags group).value.getD "").toList
  | token => token.source

end Token

theorem simplify_source {written : List Token} (clean : ∀ token ∈ written, token.IsClean) :
    simplify (source written) = source (written.flatMap Token.asConditional) := by
  have asText : ∀ text, (Token.asConditional (.text text)).flatMap Token.source = text.toList := by
    intro text
    simp [Token.asConditional, Token.source]
  rw [simplify, tokens_source clean, source, source, List.flatMap_assoc,
    flatMap_foldr_attach asText, List.flatMap_assoc, List.flatMap_nil, List.append_nil]

/-- Only markers of spans fail to come out. -/
theorem result_emit {token : Token} (unspanned : token.isSpanMarker = false) :
    (emit file resolver format token).result = .ok (token.output file resolver) := by
  cases token with
  | spanStart => cases unspanned
  | spanEnd => cases unspanned
  | occurrence => cases unspanned
  | tagInGroup group => simp [emit, Token.output]
  | _ => rfl

theorem result_emitAll {tokens : List Token}
    (unspanned : ∀ token ∈ tokens, token.isSpanMarker = false) :
    (emitAll file resolver format tokens).result =
      .ok (tokens.flatMap (Token.output file resolver)) := by
  induction tokens with
  | nil => rfl
  | cons token tokens ih =>
      have first := unspanned token (by simp)
      have others := ih fun other present => unspanned other (by simp [present])
      simp [emitAll, result_emit first, others]

theorem result_emitAll_foldr_attach {written : List Token}
    (unspanned : ∀ token ∈ written, token.isSpanMarker = false) :
    (emitAll file resolver format (written.foldr Token.attach [])).result =
      .ok (written.flatMap (Token.output file resolver)) := by
  have unspannedRead : ∀ token ∈ written.foldr Token.attach [], token.isSpanMarker = false := by
    intro token present
    cases kind : token.isText with
    | true =>
        cases token with
        | text words => rfl
        | _ => cases kind
    | false => exact unspanned token ((mem_foldr_attach kind written).1 present)
  rw [result_emitAll unspannedRead, flatMap_foldr_attach fun _ => rfl]
  simp

theorem result_render_cons {token : Token} (unconditional : token ≠ .conditionStart)
    (unspanned : token.isSpanMarker = false) (tokens : List Token) :
    (render file resolver format (token :: tokens)).result =
      (render file resolver format tokens).result.map (token.output file resolver ++ ·) := by
  rw [render, if_neg unconditional]
  simp only [Evaluation.result_bind, result_emit unspanned, Except.ok_bind]
  cases (render file resolver format tokens).result <;> rfl

/-- A text comes out in front of what follows it, also where it becomes one with another text. -/
theorem result_render_addText (front : List Char) (tokens : List Token) :
    (render file resolver format (Token.addText front tokens)).result =
      (render file resolver format tokens).result.map (front ++ ·) := by
  by_cases empty : front = []
  · rw [empty, Token.addText_nil]
    cases (render file resolver format tokens).result <;> rfl
  · have separate : (render file resolver format (.text (String.ofList front) :: tokens)).result =
        (render file resolver format tokens).result.map (front ++ ·) := by
      rw [result_render_cons (by simp) rfl]
      simp [Token.output]
    cases tokens with
    | nil => simpa [Token.addText, empty] using separate
    | cons token tokens =>
        cases token with
        | text written =>
            rw [Token.addText, result_render_cons (by simp) rfl, result_render_cons (by simp) rfl]
            cases (render file resolver format tokens).result <;>
              simp [Token.output, Except.map]
        | _ => rwa [Token.addText_of_not_isText rfl, if_neg empty]

theorem result_render_attach {token : Token} (unconditional : token ≠ .conditionStart)
    (unspanned : token.isSpanMarker = false) (tokens : List Token) :
    (render file resolver format (token.attach tokens)).result =
      (render file resolver format tokens).result.map (token.output file resolver ++ ·) := by
  cases kind : token.isText with
  | true =>
      cases token with
      | text words => exact result_render_addText _ _
      | _ => cases kind
  | false => rw [Token.attach_of_not_isText kind, result_render_cons unconditional unspanned]

/-- The tokens of a conditional. -/
def conditionalTokens (condition : String) (yes no : List Token) : List Token :=
  .conditionStart :: .text condition :: .whenTrue ::
    (yes ++ .whenFalse :: (no ++ [.conditionEnd]))

section Conditional

variable (condition : String) {yes no : List Token}

theorem foldr_attach_conditionalTokens (tokens : List Token) :
    (conditionalTokens condition yes no).foldr Token.attach tokens =
      .conditionStart :: [Token.text condition].foldr Token.attach
        (.whenTrue :: yes.foldr Token.attach
          (.whenFalse :: no.foldr Token.attach (.conditionEnd :: tokens))) := by
  simp [conditionalTokens, Token.attach]

/-- The markers of a conditional are found where they have been written. -/
theorem readConditional?_foldr_attach (closedYes : Token.whenFalse ∉ yes)
    (closedNo : Token.conditionEnd ∉ no) (tokens : List Token) :
    readConditional? ([Token.text condition].foldr Token.attach
        (.whenTrue :: yes.foldr Token.attach
          (.whenFalse :: no.foldr Token.attach (.conditionEnd :: tokens)))) =
      some (⟨[Token.text condition].foldr Token.attach [], yes.foldr Token.attach [],
        no.foldr Token.attach []⟩, tokens) := by
  rw [readConditional?, breakAt?_foldr_attach rfl (by simp)]
  simp only [Option.bind_eq_bind, Option.bind_some]
  rw [breakAt?_foldr_attach rfl closedYes]
  simp only [Option.bind_some]
  rw [breakAt?_foldr_attach rfl closedNo]
  rfl

/-- A conditional comes out as the branch that its condition asks for. -/
theorem result_render_conditional {set : ConditionSet}
    (parsed : (ConditionSet.parse condition).result = .ok set)
    (closedYes : Token.whenFalse ∉ yes) (closedNo : Token.conditionEnd ∉ no)
    (unspannedYes : ∀ token ∈ yes, token.isSpanMarker = false)
    (unspannedNo : ∀ token ∈ no, token.isSpanMarker = false) (tokens : List Token) :
    (render file resolver format
        ((conditionalTokens condition yes no).foldr Token.attach tokens)).result =
      (render file resolver format tokens).result.map
        ((if (set.holds file.tags resolver).value = true then yes else no).flatMap
          (Token.output file resolver) ++ ·) := by
  have whole : source ([Token.text condition].foldr Token.attach []) = condition := by
    rw [source, flatMap_foldr_attach fun _ => rfl]
    simp [Token.source]
  have read := readConditional?_foldr_attach condition closedYes closedNo tokens
  rw [foldr_attach_conditionalTokens, render_of_readConditional? _ _ _ read]
  simp only [whole, Evaluation.result_bind, ConditionSet.result_check_of_parse parsed,
    Except.ok_bind]
  split
  · rw [result_emitAll_foldr_attach unspannedYes, Except.ok_bind]
    cases (render file resolver format tokens).result <;> rfl
  · rw [result_emitAll_foldr_attach unspannedNo, Except.ok_bind]
    cases (render file resolver format tokens).result <;> rfl

end Conditional

end Template

end TagOrganizer
