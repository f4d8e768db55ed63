import TagOrganizer.Selection.Filter
import TagOrganizer.TaggedFile

/-!
# Rulebooks

A rulebook holds all that a run needs to know about names and places: how tags are written in names,
which names nobody chose, how files are renamed and where they are put. Earlier rules have priority.
-/

namespace TagOrganizer

/-- Files for which the filter holds are named by the format. -/
structure RenamingRule where
  filter : Filter
  format : String

/--
A rule of the movement tree. Files for which the filter holds go into the subfolder, whose name is a
format, and on to the sublevels.
-/
inductive MovementRule where
  | level (filter : Filter) (subfolder : String) (sublevels : List MovementRule)

namespace MovementRule

/-- The files for which a rule holds. -/
def filter : MovementRule → Filter
  | level filter _ _ => filter

/-- The format of the subfolder of a rule. -/
def subfolder : MovementRule → String
  | level _ subfolder _ => subfolder

/-- The rules for files in the subfolder of a rule. -/
def sublevels : MovementRule → List MovementRule
  | level _ _ sublevels => sublevels

/-- Whether the walk ends at a rule: it has no sublevels, or it names no subfolder. -/
def isTerminal (rule : MovementRule) : Bool :=
  rule.sublevels.isEmpty || rule.subfolder.isEmpty

end MovementRule

/-- All rules of a run. -/
structure Rulebook where
  tagFormats : List TagFormat
  /-- Patterns for the beginnings of names that nobody chose. -/
  unnamedPatterns : List String
  renamingRules : List RenamingRule
  movementRules : List MovementRule

namespace Rulebook

/-- The rulebook without rules. -/
def empty : Rulebook := ⟨[], [], [], []⟩

/-- Whether there are no rules. -/
def isEmpty (rulebook : Rulebook) : Bool :=
  rulebook.tagFormats.isEmpty && rulebook.unnamedPatterns.isEmpty &&
    rulebook.renamingRules.isEmpty && rulebook.movementRules.isEmpty

/-- The rules of two rulebooks; those of the first have priority. -/
def append (rulebook later : Rulebook) : Rulebook :=
  { tagFormats := rulebook.tagFormats ++ later.tagFormats
    unnamedPatterns := rulebook.unnamedPatterns ++ later.unnamedPatterns
    renamingRules := rulebook.renamingRules ++ later.renamingRules
    movementRules := rulebook.movementRules ++ later.movementRules }

end Rulebook

end TagOrganizer
