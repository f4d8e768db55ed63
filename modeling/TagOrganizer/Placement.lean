import TagOrganizer.Report
import TagOrganizer.Rulebook.Basic
import TagOrganizer.Template.Substitution

/-!
# Placement

The movement tree is walked for each file. Siblings are tried in their order. A walk that ends at a
terminal rule is complete, and the first complete one counts; if there is none, the first walk that
got anywhere is kept as a partial one.
-/

namespace TagOrganizer

/-- How far a walk through the movement tree got. -/
structure Placement where
  complete : Bool
  path : Path

namespace Placement

/-- The walk that got nowhere. -/
def miss : Placement := ⟨false, Path.empty⟩

/-- Whether a walk got nowhere. -/
def isMiss (placement : Placement) : Bool :=
  !placement.complete && placement.path.isEmpty

/-- The path of a segment and what lies below it, if anything. -/
def joinSegment (segment below : Path) : Path :=
  if below.isEmpty then segment else segment.join below

/-- The path segment that a rule contributes for a file. -/
def segmentOf (file : TaggedFile) (resolver : Resolver) (subfolder : String) :
    Evaluation Path := do
  if subfolder.isEmpty then return Path.empty
  else return ⟨← Template.nameAlone subfolder file resolver⟩

mutual

/-- Walks from one rule on. -/
def ofRule (file : TaggedFile) (resolver : Resolver) : MovementRule → Evaluation Placement
  | .level filter subfolder sublevels => do
      if ← filter.holds file.tags resolver then
        let segment ← segmentOf file resolver subfolder
        if sublevels.isEmpty || subfolder.isEmpty then return ⟨true, segment⟩
        else
          let below ← bestOf file resolver none sublevels
          return ⟨below.complete, joinSegment segment below.path⟩
      else return miss

/-- The best walk from a list of rules on; `kept` is where the first partial one got. -/
def bestOf (file : TaggedFile) (resolver : Resolver) (kept : Option Path) :
    List MovementRule → Evaluation Placement
  | [] => return (kept.map fun path => ⟨false, path⟩).getD miss
  | rule :: rules => do
      let found ← ofRule file resolver rule
      if found.complete then return found
      else if kept.isNone && !found.path.isEmpty then
        bestOf file resolver (some found.path) rules
      else bestOf file resolver kept rules

end

/-- Finds the place for a file. -/
def find (file : TaggedFile) (rules : List MovementRule) (resolver : Resolver) :
    Evaluation Placement := do
  if rules.isEmpty then
    tell .movementEmpty
    throw .emptyMovement
  let found ← bestOf file resolver none rules
  if found.complete then tell (.placementComplete file.tags)
  else if !found.isMiss then tell (.placementPartial file.tags found.path)
  return found

/-- Decides where a file goes. -/
def placeFile (rules : List MovementRule) (resolver : Resolver) (file : TaggedFile) :
    Evaluation TaggedFile := do
  let found ← find file rules resolver
  if found.isMiss then tell (.placementMissed file.rawName)
  return { file with destination := found.path, moveFailed := found.isMiss }

/-- Decides where each file goes, and reports those that go nowhere. -/
def run (files : List TaggedFile) (rules : List MovementRule) (resolver : Resolver) :
    Evaluation Report := do
  let placed ← files.mapM (placeFile rules resolver)
  let failed := (placed.filter TaggedFile.moveFailed).length
  let messages :=
    if failed = 0 then []
    else [Message.warning (Nat.repr failed ++ " file(s) did not match any movement filter")]
  return { Report.empty with files := placed, messages := messages }

end Placement

end TagOrganizer
