import TagOrganizer.Selection.ConditionSet

/-!
# Filters

Condition sets of which one has to hold. A filter without any set can be written, but not evaluated.
-/

namespace TagOrganizer

/-- Condition sets of which one has to hold. -/
structure Filter where
  sets : List ConditionSet
  deriving DecidableEq

namespace Filter

/-- Reads a filter. -/
def parse (texts : List String) : Evaluation Filter := do
  let sets ← texts.mapM ConditionSet.parse
  return ⟨sets⟩

/-- The text of a condition set in a rule document. -/
def textOf (value : Json) : Except Error String :=
  match value with
  | .text text => .ok text
  | other => .error (.conditionSetNotText other)

/-- Reads a filter of a rule document, where it is an array of texts. -/
def ofJson (value : Json) : Evaluation Filter := do
  match value with
  | .array items =>
      let texts ← (items.mapM textOf : Except Error (List String))
      parse texts
  | other => throw (.filterNotArray other)

/-- The text of a filter. -/
def text (filter : Filter) : String :=
  "[" ++ ", ".intercalate (filter.sets.map fun set => "\"" ++ set.text ++ "\"") ++ "]"

/-- Whether a filter has no condition set. -/
def isEmpty (filter : Filter) : Bool :=
  filter.sets.isEmpty

/-- Whether one of the condition sets holds. -/
def holds (tags : List String) (resolver : Resolver) (filter : Filter) : Evaluation Bool := do
  if filter.isEmpty then
    tell .filterEmpty
    throw .emptyFilter
  match ← (filter.sets.findM? fun set => set.holds tags resolver : Logged _) with
  | some set =>
      tell (.filterMatched tags set.text)
      return true
  | none =>
      tell (.filterUnmatched tags filter.text)
      return false

/-- Whether one of the condition sets holds, each one read when it is reached. -/
def check (tags : List String) (resolver : Resolver) (texts : List String) :
    Evaluation Bool := do
  if texts.isEmpty then
    tell .filterEmpty
    throw .emptyFilter
  texts.anyM (ConditionSet.check tags resolver)

end Filter

end TagOrganizer
