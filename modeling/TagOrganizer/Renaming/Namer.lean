import TagOrganizer.Rulebook.Basic

/-!
# Namers

A namer knows which names nobody chose, and which format names a file: that of the first renaming
rule whose filter holds. Patterns that cannot be read are left out.
-/

namespace TagOrganizer

/-- The rules that give names to files. -/
structure Namer where
  rules : List RenamingRule
  /-- Patterns for the beginnings of names that nobody chose. -/
  unnamed : List Pattern

namespace Namer

/-- The patterns that can be read; the others are told about. -/
def readPatterns : List String → Logged (List Pattern)
  | [] => return []
  | text :: texts =>
      match Pattern.leading text with
      | .ok pattern => do
          let others ← readPatterns texts
          return pattern :: others
      | .error error => do
          tell (.unnamedPatternBad error)
          readPatterns texts

/-- The namer of a rulebook, which needs a renaming rule. -/
def ofRulebook (rulebook : Rulebook) : Evaluation Namer := do
  if rulebook.renamingRules.isEmpty then
    tell .renamingEmpty
    throw .noRenamingRules
  if rulebook.unnamedPatterns.isEmpty then tell .unnamedPatternsMissing
  let unnamed ← (readPatterns rulebook.unnamedPatterns : Logged (List Pattern))
  return ⟨rulebook.renamingRules, unnamed⟩

/-- Whether nobody chose a name, which is given without its tags. -/
def isUnnamed (namer : Namer) (name : String) : Bool :=
  namer.unnamed.any fun pattern => pattern.isMatch name

/-- The format of the first of some rules whose filter holds. -/
def formatOf? (tags : List String) (resolver : Resolver) :
    List RenamingRule → Evaluation (Option String)
  | [] => return none
  | rule :: rules => do
      if ← rule.filter.holds tags resolver then return some rule.format
      else formatOf? tags resolver rules

/-- The format that names a file with the given tags. -/
def findFormat (namer : Namer) (tags : List String) (resolver : Resolver) :
    Evaluation (Option String) :=
  formatOf? tags resolver namer.rules

end Namer

end TagOrganizer
