import TagOrganizer.Selection.Condition

/-!
# Condition sets

Conditions joined by a delimiter, all of which have to hold. Empty fragments between delimiters are
left out, and told about. A set may be read first and evaluated later, or evaluated while it is
read, up to the first condition that does not hold.
-/

namespace TagOrganizer

/-- Conditions that all have to hold. -/
structure ConditionSet where
  conditions : List Condition
  deriving DecidableEq

namespace ConditionSet

/-- The fragments of a text between delimiters. -/
def fragments (text : String) : List (List Char) :=
  Text.fragments '/' ['&', '|'] text.toList

/-- What stands between two conditions. -/
def delimiter : List Char := ['/', '&', '|']

/-- The fragments of a condition set that are not empty. -/
def split (text : String) : Logged (List String) := do
  if text.isEmpty then return []
  let pieces := fragments text
  if pieces.any List.isEmpty then tell (.conditionSetStray text)
  return (pieces.filter fun piece => !piece.isEmpty).map String.ofList

/-- Reads a condition set. -/
def parse (text : String) : Evaluation ConditionSet := do
  let pieces ← split text
  if pieces.isEmpty then throw (.emptyConditionSet text)
  let conditions ← (pieces.mapM Condition.parse : Except Error (List Condition))
  return ⟨conditions⟩

/-- The text of a condition set. -/
def text (set : ConditionSet) : String :=
  String.ofList (delimiter.intercalate (set.conditions.map Condition.chars))

/-- Whether all conditions hold, tried one after the other up to the first that does not. -/
def holds (tags : List String) (resolver : Resolver) (set : ConditionSet) : Logged Bool :=
  set.conditions.allM fun condition => condition.holds tags resolver

end ConditionSet

/-- Whether a condition that is given as a text holds. -/
def Condition.check (tags : List String) (resolver : Resolver) (text : String) :
    Evaluation Bool := do
  let condition ← parse text
  condition.holds tags resolver

/-- Whether all conditions hold, each one read when it is reached. -/
def ConditionSet.check (tags : List String) (resolver : Resolver) (text : String) :
    Evaluation Bool := do
  let pieces ← split text
  if pieces.isEmpty then throw (.emptyConditionSet text)
  pieces.allM (Condition.check tags resolver)

end TagOrganizer
