import TagOrganizer.TagGroup.Membership

/-!
# Conditions

A condition is a predicate on the tags of a file: a tag, a group or category of tags, or the
condition that always holds, perhaps negated. Conditions are written with markers, and names hold no
slash.
-/

namespace TagOrganizer

/-- A condition on the tags of a file. -/
inductive Condition where
  | tag (name : String)
  | group (name : String)
  | category (name : String)
  /-- The condition that always holds. -/
  | all
  | not (condition : Condition)
  deriving DecidableEq

namespace Condition

/-- What a negated condition begins with. -/
def notMark : List Char := ['/', '!', '|']

/-- The text of the condition that always holds. -/
def allMark : List Char := ['/', '*', '|']

/-- What a group condition begins with. -/
def groupMark : List Char := ['/', 'G', '|']

/-- What a category condition begins with. -/
def categoryMark : List Char := ['/', 'C', '|']

/-- Whether a text can be a name: it is not empty and holds no slash. -/
def isName (name : List Char) : Bool :=
  !name.isEmpty && !name.contains '/'

theorem isName_iff {name : List Char} : isName name = true ↔ name ≠ [] ∧ '/' ∉ name := by
  simp [isName]

/-- Applies `build` to a name, if it is one. -/
def ofName? (build : String → Condition) (name : List Char) : Option Condition :=
  if isName name then some (build (String.ofList name)) else none

/-- Reads a condition that is not negated. -/
def ofBody? (body : List Char) : Option Condition :=
  if body = allMark then some all
  else
    match Text.stripFront? groupMark body with
    | some name => ofName? group name
    | none =>
        match Text.stripFront? categoryMark body with
        | some name => ofName? category name
        | none => ofName? tag body

/-- Reads a condition. -/
def ofChars? (text : List Char) : Option Condition :=
  match Text.stripFront? notMark text with
  | some body => (ofBody? body).map not
  | none => ofBody? text

/-- Reads a condition. -/
def parse (text : String) : Except Error Condition :=
  match ofChars? text.toList with
  | some condition => .ok condition
  | none => .error (.malformedCondition text)

/-- The characters of a condition. -/
def chars : Condition → List Char
  | tag name => name.toList
  | group name => groupMark ++ name.toList
  | category name => categoryMark ++ name.toList
  | all => allMark
  | not condition => notMark ++ condition.chars

/-- The text of a condition. -/
def text (condition : Condition) : String :=
  String.ofList condition.chars

/-- Whether a condition holds for some tags. -/
def holds (tags : List String) (resolver : Resolver) : Condition → Logged Bool
  | all => return true
  | tag name => return tags.contains name
  | group name => return (← resolver.representative tags name).isSome
  | category name => return (← resolver.representative tags name).isSome
  | not condition => return !(← condition.holds tags resolver)

end Condition

end TagOrganizer
