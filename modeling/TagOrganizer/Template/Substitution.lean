import TagOrganizer.Selection.Filter
import TagOrganizer.TaggedFile
import TagOrganizer.Template.Span

/-!
# Evaluating formats

A format without iteration spans is evaluated against a file: markers are replaced by what they
stand for, and of a conditional the branch is taken that its condition set asks for. Branches hold
no conditionals; the markers of an inner one come out as they are written.
-/

namespace TagOrganizer

namespace Template

/-- A choice of a tag or a group written as a conditional. -/
def Token.asConditional : Token → List Token
  | tagChoice tag =>
      [conditionStart, text tag, whenTrue, text tag, whenFalse, conditionEnd]
  | groupChoice group =>
      [conditionStart, text (String.ofList (Condition.groupMark ++ group.toList)), whenTrue,
        text group, whenFalse, conditionEnd]
  | token => [token]

/-- Writes the choices of a format as conditionals. -/
def simplify (format : String) : String :=
  source ((tokens format).flatMap Token.asConditional)

/-- A conditional, whose first marker has been read. -/
structure Conditional where
  condition : List Token
  branchTrue : List Token
  branchFalse : List Token

/-- Reads a conditional and gives what follows it. -/
def readConditional? (tokens : List Token) : Option (Conditional × List Token) := do
  let (condition, rest) ← breakAt? .whenTrue tokens
  let (branchTrue, rest) ← breakAt? .whenFalse rest
  let (branchFalse, rest) ← breakAt? .conditionEnd rest
  return (⟨condition, branchTrue, branchFalse⟩, rest)

theorem length_of_readConditional? {tokens rest : List Token} {conditional : Conditional}
    (read : readConditional? tokens = some (conditional, rest)) : rest.length < tokens.length := by
  simp only [readConditional?, Option.bind_eq_bind, Option.bind_eq_some_iff, Option.pure_def,
    Option.some.injEq, Prod.mk.injEq, Prod.exists] at read
  obtain ⟨_, _, first, _, _, second, _, _, third, -, rfl⟩ := read
  have := length_of_breakAt? first
  have := length_of_breakAt? second
  have := length_of_breakAt? third
  omega

/-- What a token outside of conditionals comes out as. -/
def emit (file : TaggedFile) (resolver : Resolver) (format : String) :
    Token → Evaluation (List Char)
  | .text text => return text.toList
  | .file => return file.baseName.toList
  | .extension => return file.extension.toList
  | .tags => return file.tagSection.toList
  | .tagInGroup group => do
      let tag ← (resolver.representative file.tags group : Logged (Option String))
      return (tag.getD "").toList
  | .spanStart => throw (.unresolvedSpan format)
  | .spanEnd => throw (.unresolvedSpan format)
  | .occurrence => throw (.unresolvedSpan format)
  | token => return token.source

/-- What tokens outside of conditionals come out as. -/
def emitAll (file : TaggedFile) (resolver : Resolver) (format : String) :
    List Token → Evaluation (List Char)
  | [] => return []
  | token :: tokens => do
      let first ← emit file resolver format token
      let others ← emitAll file resolver format tokens
      return first ++ others

/-- What the tokens of a format come out as. -/
def render (file : TaggedFile) (resolver : Resolver) (format : String) :
    List Token → Evaluation (List Char)
  | [] => return []
  | token :: tokens =>
      if token = .conditionStart then
        match _read : readConditional? tokens with
        | none => throw (.incompleteConditional format)
        | some (conditional, rest) => do
            let condition := source conditional.condition
            let holds ← ConditionSet.check file.tags resolver condition
            let branch := if holds then conditional.branchTrue else conditional.branchFalse
            let first ← emitAll file resolver format branch
            let others ← render file resolver format rest
            return first ++ others
      else do
        let first ← emit file resolver format token
        let others ← render file resolver format tokens
        return first ++ others
termination_by tokens => tokens.length
decreasing_by
  · have := length_of_readConditional? _read
    simp only [List.length_cons]
    omega
  · simp

/-- Evaluates a format against a file. Neither the format nor what comes out may be empty. -/
def substitute (format : String) (file : TaggedFile) (resolver : Resolver) :
    Evaluation String := do
  if format.isEmpty then
    tell .formatEmpty
    throw .emptyFormat
  let result ← render file resolver format (tokens (simplify format))
  if result.contains '/' then tell (.slashInResult format (String.ofList result))
  if result.isEmpty then
    tell (.resultEmpty format)
    throw (.emptyResult format)
  return String.ofList result

/-- Evaluates a format against a file that is the first one of its name. -/
def nameAlone (format : String) (file : TaggedFile) (resolver : Resolver) :
    Evaluation String := do
  substitute (← stripSpans format) file resolver

/-- Evaluates a format against a file whose name has been given `number` times, with this one. -/
def nameNumbered (format : String) (number : Nat) (file : TaggedFile) (resolver : Resolver) :
    Evaluation String := do
  substitute (← numberSpans format number) file resolver

end Template

end TagOrganizer
