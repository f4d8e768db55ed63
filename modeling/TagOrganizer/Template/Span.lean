import TagOrganizer.Logged
import TagOrganizer.Template.Token

/-!
# Iteration spans

A span of a format is meant for names that collide. It is left out of the first name, and unwrapped
with the number of the occurrence otherwise. A span ends at the first end marker after its start; an
end marker elsewhere is kept.
-/

namespace TagOrganizer

namespace Template

/-- A part of a format: a token outside of all spans, or a span. -/
inductive Part where
  | plain (token : Token)
  | span (inner : List Token)

/-- The tokens before and after the first token that is `marker`. -/
def breakAt? (marker : Token) : List Token → Option (List Token × List Token)
  | [] => none
  | token :: tokens =>
      if token = marker then some ([], tokens)
      else (breakAt? marker tokens).map fun (before, after) => (token :: before, after)

theorem length_of_breakAt? {marker : Token} {tokens before after : List Token}
    (broken : breakAt? marker tokens = some (before, after)) :
    after.length < tokens.length := by
  induction tokens generalizing before with
  | nil => cases broken
  | cons token tokens ih =>
      simp only [breakAt?] at broken
      split at broken
      · obtain ⟨-, rfl⟩ := Prod.mk.inj (Option.some.inj broken)
        simp
      · obtain ⟨⟨front, rest⟩, found, equal⟩ := Option.map_eq_some_iff.1 broken
        cases equal
        exact Nat.lt_succ_of_lt (ih found)

/-- The parts of a format, `none` if a span is not closed. -/
def parts? : List Token → Option (List Part)
  | [] => some []
  | token :: tokens =>
      if token = .spanStart then
        match _broken : breakAt? .spanEnd tokens with
        | none => none
        | some (inner, rest) => (parts? rest).map (Part.span inner :: ·)
      else (parts? tokens).map (Part.plain token :: ·)
termination_by tokens => tokens.length
decreasing_by
  · have := length_of_breakAt? _broken
    simp only [List.length_cons]
    omega
  · simp

/-- The parts of a format, all spans of which have to be closed. -/
def partsOf (format : String) : Except Error (List Part) :=
  match parts? (tokens format) with
  | some parts => .ok parts
  | none => .error (.unclosedSpan format)

/-- The tokens outside of all spans. -/
def plainTokens (parts : List Part) : List Token :=
  parts.filterMap fun part =>
    match part with
    | .plain token => some token
    | .span _ => none

/-- Leaves the spans of a format out. No occurrence number may be wanted outside of them. -/
def stripSpans (format : String) : Evaluation String := do
  let parts ← partsOf format
  let kept := plainTokens parts
  if kept.contains .occurrence then
    tell (.occurrenceOutsideSpan format)
    throw (.occurrenceOutsideSpan format)
  return source kept

/-- A token as it is written, or the number of the occurrence. -/
def numbered (number : Nat) (token : Token) : List Char :=
  if token = .occurrence then (Nat.repr number).toList else token.source

/-- The tokens of a format with its spans unwrapped. -/
def unwrap (parts : List Part) : List Token :=
  parts.flatMap fun part =>
    match part with
    | .plain token => [token]
    | .span inner => inner

/-- Whether a part is a span in which no occurrence number is wanted. -/
def isUnnumbered (part : Part) : Bool :=
  match part with
  | .plain _ => false
  | .span inner => !inner.contains .occurrence

/-- Unwraps the spans of a format and writes the number of the occurrence where it is wanted. -/
def numberSpans (format : String) (number : Nat) : Evaluation String := do
  let parts ← partsOf format
  for _ in parts.filter isUnnumbered do
    tell (.spanWithoutOccurrence format)
  return String.ofList ((unwrap parts).flatMap (numbered number))

end Template

end TagOrganizer
