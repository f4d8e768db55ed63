import TagOrganizer.Renaming.Ledger
import TagOrganizer.Renaming.Namer
import TagOrganizer.Report
import TagOrganizer.Template.Substitution

/-!
# Naming

Files get names in their order. A file is named if nobody chose its name or if renaming is forced.
The first file to produce a name in a destination gets it without iteration spans. When the second
one comes the first is named again as occurrence 1, and the later ones are numbered on. The counts
are kept in a ledger, so that they go on over several batches of files.
-/

namespace TagOrganizer

/-- How files are named. -/
structure NamingOptions where
  /-- Files are renamed even if somebody chose their names. -/
  forceRename : Bool
  /-- A forced renaming without a rule counts as a failure. -/
  failOnBad : Bool
  /-- Names that have been produced before are forgotten. -/
  clearOccurrences : Bool

/-- An act on the ledger of names. -/
abbrev Naming := Act Ledger

namespace Naming

/-- Tells about the parts of a name that a format loses. -/
def tellLosses (format : String) : Logged Unit := do
  if !Text.occursIn "/TAGS|".toList format.toList then tell (.tagsLost format)
  if !Text.occursIn "/EXT|".toList format.toList then tell (.extensionLost format)

/-- Gives a file its name, which has to be a single path component. -/
def assign (format name : String) (file : TaggedFile) : Logged TaggedFile := do
  if name.toList.contains '/' then
    tell (.nameNotPlain format name file.rawName)
    return { file with renameFailed := true }
  else return { file with outputName := name, renameFailed := false }

/-- A file that keeps the name that somebody chose. -/
def keepName (file : TaggedFile) : Logged TaggedFile := do
  tell (.manualNameKept file.location)
  return { file with renameFailed := false }

/-- Names the first of some files that was found at a location, as occurrence 1 of a name. -/
def renameFirst (format iterless : String) (resolver : Resolver) (first : Path) :
    List TaggedFile → Evaluation (List TaggedFile)
  | [] => do
      tell (.firstElsewhere iterless)
      return []
  | file :: files =>
      if file.location.sameAs first then do
        let name ← Template.nameNumbered format 1 file resolver
        tell (.firstRenamed iterless name)
        let renamed ← (assign format name file : Logged TaggedFile)
        return renamed :: files
      else do
        let renamed ← renameFirst format iterless resolver first files
        return file :: renamed

/--
Names a file by a format. `earlier` are the files of the batch that have been named before; the
first occurrence of a name that is taken now is among them or in an earlier batch.
-/
def nameBy (format : String) (resolver : Resolver) (earlier : List TaggedFile)
    (file : TaggedFile) : Naming (List TaggedFile) := do
  tellLosses format
  let iterless ← Template.nameAlone format file resolver
  if iterless.toList.contains '/' then
    let file ← (assign format iterless file : Logged TaggedFile)
    return earlier ++ [file]
  match (← get).find? file.destination iterless with
  | none =>
      tell (.nameChosen file.rawName iterless)
      modify fun ledger => ledger.addFirst file.destination iterless file.location
      let file ← (assign format iterless file : Logged TaggedFile)
      return earlier ++ [file]
  | some produced =>
      tell (.nameTaken iterless)
      let earlier ←
        if produced.occurrences = 1 then
          renameFirst format iterless resolver produced.first earlier
        else pure earlier
      modify fun ledger => ledger.count file.destination iterless
      let name ← Template.nameNumbered format (produced.occurrences + 1) file resolver
      tell (.nameChosen file.rawName name)
      let file ← (assign format name file : Logged TaggedFile)
      return earlier ++ [file]

/-- Names a file, after the earlier files of its batch. -/
def nameFile (namer : Namer) (resolver : Resolver) (options : NamingOptions)
    (earlier : List TaggedFile) (file : TaggedFile) : Naming (List TaggedFile) := do
  let unnamed := namer.isUnnamed file.untaggedName
  if !unnamed && !options.forceRename then
    let file ← (keepName file : Logged TaggedFile)
    return earlier ++ [file]
  match ← namer.findFormat file.tags resolver with
  | some format => nameBy format resolver earlier file
  | none =>
      if !unnamed && !options.failOnBad then
        let file ← (keepName file : Logged TaggedFile)
        return earlier ++ [file]
      else
        tell (.renamingUnmatched file.rawName)
        return earlier ++ [{ file with renameFailed := true }]

/-- Names the files of a batch in their order. -/
def nameAll (namer : Namer) (resolver : Resolver) (options : NamingOptions) :
    (earlier files : List TaggedFile) → Naming (List TaggedFile)
  | earlier, [] => return earlier
  | earlier, file :: files => do
      let earlier ← nameFile namer resolver options earlier file
      nameAll namer resolver options earlier files

/-- Names the files of a batch. -/
def nameBatch (namer : Namer) (resolver : Resolver) (options : NamingOptions)
    (files : List TaggedFile) : Naming (List TaggedFile) := do
  if options.clearOccurrences then set Ledger.empty
  nameAll namer resolver options [] files

/-- Names the files of a batch, and reports those that could not be named. -/
def run (namer : Namer) (resolver : Resolver) (options : NamingOptions)
    (files : List TaggedFile) : Naming Report := do
  let named ← nameBatch namer resolver options files
  let failed := (named.filter TaggedFile.renameFailed).length
  let messages :=
    if failed = 0 then []
    else [Message.warning (Nat.repr failed ++ " file(s) could not be renamed")]
  return { Report.empty with files := named, messages := messages }

end Naming

end TagOrganizer
