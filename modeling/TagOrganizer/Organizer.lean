import TagOrganizer.Placement
import TagOrganizer.Pruning
import TagOrganizer.Rulebook.Document
import TagOrganizer.Settings
import TagOrganizer.TagGroup.Document

/-!
# Organizing

A whole run: the files of the input folders are collected, placed in the movement tree unless they
are only renamed, named unless they are only moved, and transferred; then folders are cleaned.
-/

namespace TagOrganizer

/-- The groups and rules of a run. -/
structure Organizer where
  groups : GroupTable
  rulebook : Rulebook

/-- What a run changes: the files and folders, and the names produced so far. -/
structure Scene where
  disk : Disk
  ledger : Ledger

/-- An act on files and folders and on the names produced so far. -/
abbrev Organizing := Act Scene

namespace Organizing

variable {α : Type}

/-- An operation on the files and folders. -/
def onDisk (operation : Operation α) : Organizing α :=
  ExceptT.mk fun scene => do
    let (result, disk) ← operation.perform scene.disk
    return (result, { scene with disk := disk })

/-- An act on the names produced so far, whose events are written down. -/
def onLedger (naming : Naming α) : Organizing α :=
  ExceptT.mk fun scene =>
    let performed := naming.perform scene.ledger
    let (result, ledger) := performed.value
    ⟨(result, ⟨scene.disk.noteAll performed.log, ledger⟩), performed.log⟩

end Organizing

namespace Organizer

/-- Adds the groups of a document in a file. What its name gives rise to is told before. -/
def addGroups (groups : GroupTable) (path : Path) : Operation GroupTable := do
  (GroupTable.checkName path : Logged Unit)
  Prod.snd <$> Operation.look (fun tree => GroupTable.loadContent tree path true) groups

/-- Adds the rules of a document in a file. What its name gives rise to is told before. -/
def addRules (rulebook : Rulebook) (path : Path) : Operation Rulebook := do
  (Rulebook.checkName path : Logged Unit)
  Prod.snd <$> Operation.look (fun tree => Rulebook.loadContent tree path true) rulebook

/-- Loads and combines the groups and rules of files, in their order. -/
def ofFiles (groupFiles ruleFiles : List Path) : Operation Organizer := do
  let groups ← groupFiles.foldlM addGroups .empty
  let rulebook ← ruleFiles.foldlM addRules .empty
  return ⟨groups, rulebook⟩

/-- Adds the names to be ignored that a file gives. -/
def addIgnored (collector : Collector) (path : Path) : Operation Collector :=
  Prod.snd <$> Operation.look (fun tree => Collector.loadIgnoreFile tree path) collector

/-- Collects the files of folders, names to be ignored read from files first. -/
def collect (organizer : Organizer) (folders ignoreFiles : List Path) (options : ScanOptions) :
    Operation Report := do
  let start := Collector.start organizer.rulebook.tagFormats
  let collector ← ignoreFiles.foldlM addIgnored start
  Prod.fst <$> Operation.look (fun tree => Collector.scan tree options folders) collector

/-- Places files in the movement tree. -/
def place (organizer : Organizer) (files : List TaggedFile) : Evaluation Report :=
  Placement.run files organizer.rulebook.movementRules organizer.groups.resolver

/-- Names files. -/
def name (organizer : Organizer) (files : List TaggedFile) (options : NamingOptions) :
    Naming Report := do
  let namer ← Namer.ofRulebook organizer.rulebook
  Naming.run namer organizer.groups.resolver options files

/-- A file whose destination is the folder that it lies in. -/
def stay (file : TaggedFile) : TaggedFile :=
  { file with destination := file.location.parent?.getD Path.empty }

/-- Runs the whole sequence. -/
def organize (organizer : Organizer) (settings : Settings) : Organizing Report := do
  let collected ← Organizing.onDisk
    (organizer.collect settings.inputFolders settings.ignoreFiles settings.scanOptions)
  let placed ←
    if settings.renameOnly then
      pure { Report.empty with files := collected.files.map stay }
    else Organizing.onDisk (organizer.place collected.files)
  let named ←
    if settings.moveOnly then pure { Report.empty with files := placed.files }
    else Organizing.onLedger (organizer.name placed.files settings.namingOptions)
  let moved ← Organizing.onDisk
    (Transfer.run settings.moveOptions settings.outputFolders named.files)
  let cleaned ← settings.cleanFolders.mapM fun folder =>
    Organizing.onDisk (Pruning.run folder settings.trial)
  return {
    files := named.files
    written := moved.written
    removed := cleaned.flatMap Report.removed
    messages := collected.messages ++ placed.messages ++ named.messages ++ moved.messages ++
      cleaned.flatMap Report.messages }

end Organizer

end TagOrganizer
