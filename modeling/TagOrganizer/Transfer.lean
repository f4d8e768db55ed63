import TagOrganizer.FileTree.Operation
import TagOrganizer.Report

/-!
# Transfer

Files are copied to their places: into each output folder, at their destination, under their output
name. The file itself is removed once a copy has been written, unless it is to be kept. Nothing is
overwritten unless that is forced, no file leaves its output folder, and a trial run only tells what
would be done.
-/

namespace TagOrganizer

/-- How files are moved. -/
structure MoveOptions where
  /-- Files are copied instead. -/
  keep : Bool
  /-- Nothing is changed. -/
  trialRun : Bool
  /-- What is in the way is overwritten. -/
  force : Bool
  /-- Files without a place go to the output folder itself. -/
  allMatchRoot : Bool
  /-- Files are moved even if no name was found for them. -/
  moveAll : Bool
  /-- Names that Windows does not admit are not told about. -/
  posix : Bool
  /-- Files are renamed in their folders. -/
  renameOnly : Bool

namespace Transfer

/-- The characters that Windows does not admit in paths. -/
def windowsReserved : List Char := ['<', '>', ':', '"', '|', '?', '*']

/-- What Windows does not admit about a name at a path. -/
def windowsIssues (name : String) (path : Path) : List String :=
  let reserved :=
    if path.text.toList.any windowsReserved.contains then
      ["Unsafe file name/path: " ++ path.text ++
        ". Windows cannot tolerate the characters <>:\"|?*"]
    else []
  let backslash :=
    if name.toList.contains '\\' then
      ["Unsafe file name: " ++ name ++ ". Windows cannot tolerate \\ in file names"]
    else []
  let ending :=
    if name.toList.getLast? = some '.' ∨ name.toList.getLast? = some ' ' then
      ["Unsafe file name: " ++ name ++
        ". Windows cannot tolerate names ending in a space or a period"]
    else []
  reserved ++ backslash ++ ending

/-- Tells what Windows does not admit about a name at a path. -/
def checkWindows (name : String) (path : Path) : Logged (List String) := do
  let issues := windowsIssues name path
  for issue in issues do
    tell (.windowsIssue issue)
  return issues

/-- Fails if a file stands where an output folder should be; if that is forced, removes the file. -/
def checkOutput (options : MoveOptions) (folder : Path) : Operation Unit := do
  if (← Operation.tree).isFile folder then
    if options.force then
      tell (.outputOverwritten folder)
      if !options.trialRun then Operation.change fun tree => tree.removeFile folder
    else
      tell (.outputTaken folder)
      throw (.fileAtOutput folder)

/-- Makes sure that no file stands where an output folder should be. -/
def checkOutputs (options : MoveOptions) (folders : List Path) : Operation Unit :=
  folders.forM (checkOutput options)

/-- Whether a component of a destination stays below what comes before it. -/
def staysBelow : Path.Component → Bool
  | .name _ => true
  | .here => true
  | .root => false
  | .up => false

/-- Whether a name is a single component of a path. -/
def isSingleName (name : String) : Bool :=
  !name.toList.contains '/' &&
    match Path.components ⟨name⟩ with
    | [.name _] => true
    | _ => false

/-- Where a file goes in an output folder. -/
def targetIn (folder : Path) (file : TaggedFile) : Path :=
  (folder.join file.destination).join ⟨file.outputName⟩

/-- Whether a file stays inside an output folder. -/
def staysInside (folder : Path) (file : TaggedFile) : Bool :=
  file.destination.components.all staysBelow && isSingleName file.outputName &&
    (targetIn folder file).startsWith folder

/-- Makes room at a target, where that is wanted; gives whether the file can be written there. -/
def makeRoom (options : MoveOptions) (target : Path) : Operation Bool := do
  let tree ← Operation.tree
  if !tree.exists? target then return true
  else if !options.force then
    tell (.targetKept target)
    return false
  else if !tree.isFolder target then
    tell (.fileOverwritten target)
    return true
  else
    tell (.folderOverwritten target)
    if options.trialRun then return true
    match ← Operation.attempt fun tree => tree.removeTree target with
    | .ok () => return true
    | .error fault =>
        tell (.folderNotRemoved target fault)
        return false

/-- Makes the folder that a file goes to, unless it is there. -/
def makeDestination (options : MoveOptions) (folder : Path) : Operation Unit := do
  if !(← Operation.tree).exists? folder then
    tell (.folderCreated folder)
    if !options.trialRun then Operation.makeFolders folder

/-- Copies a file to its target; gives whether it was written. -/
def copyTo (options : MoveOptions) (source target : Path) : Operation Bool := do
  if options.trialRun then return true
  match ← Operation.attempt fun tree => tree.copyFile source target with
  | .ok () => return true
  | .error fault =>
      tell (.copyFailed target fault)
      return false

/-- Copies a file into an output folder; gives where it was written. -/
def placeIn (options : MoveOptions) (file : TaggedFile) (folder : Path) :
    Operation (Option Path) := do
  if !staysInside folder file then
    tell (.outsideRefused file.rawName folder file.destination file.outputName)
    return none
  let target := targetIn folder file
  if !options.posix then
    let _ ← (checkWindows file.outputName target : Logged (List String))
  if (← Operation.tree).isSame target file.location then
    tell (.ontoItself file.location)
    return none
  tell (.moving file.location target)
  makeDestination options (folder.join file.destination)
  if ← makeRoom options target then
    if ← copyTo options file.location target then return some target
    else return none
  else return none

/-- Whether a file is to be placed at all. -/
def shouldMove (options : MoveOptions) (file : TaggedFile) : Logged Bool := do
  if file.moveFailed && !options.allMatchRoot && !options.renameOnly then
    tell (.unplacedSkipped file.rawName)
    return false
  else if file.renameFailed && !options.moveAll then
    tell (.unnamedSkipped file.rawName)
    return false
  else return true

/-- What has been done so far. -/
structure Tally where
  written : List Path
  skipped : Nat
  removed : Nat

/-- The folders that a file goes to, and the file as it is placed there. -/
def placesOf (options : MoveOptions) (folders : List Path) (file : TaggedFile) :
    List Path × TaggedFile :=
  if options.renameOnly then
    ([file.location.parent?.getD Path.empty], { file with destination := Path.empty })
  else (folders, file)

/-- Copies a file into folders; gives where it was written. -/
def placeInAll (options : MoveOptions) (file : TaggedFile) (folders : List Path) :
    Operation (List Path) := do
  let targets ← folders.mapM (placeIn options file)
  return targets.filterMap id

/-- Removes a file that has been copied. -/
def removeSource (options : MoveOptions) (file : TaggedFile) : Operation Unit := do
  tell (.sourceRemoved file.location)
  if !options.trialRun then Operation.change fun tree => tree.removeFile file.location

/-- Moves one file. -/
def moveFile (options : MoveOptions) (folders : List Path) (tally : Tally) (file : TaggedFile) :
    Operation Tally := do
  if ← (shouldMove options file : Logged Bool) then
    let (folders, placed) := placesOf options folders file
    let written ← placeInAll options placed folders
    let tally := { tally with written := tally.written ++ written }
    if !written.isEmpty && !options.keep then
      removeSource options file
      return { tally with removed := tally.removed + 1 }
    else return tally
  else return { tally with skipped := tally.skipped + 1 }

/-- Moves files, one after the other. -/
def moveAll (options : MoveOptions) (folders : List Path) (files : List TaggedFile) :
    Operation Tally := do
  if !options.renameOnly then checkOutputs options folders
  files.foldlM (moveFile options folders) ⟨[], 0, 0⟩

/-- The messages about what has been done. -/
def messagesOf (options : MoveOptions) (tally : Tally) : List Message :=
  let wrote := if options.trialRun then "Would write " else "Wrote "
  let removed := if options.trialRun then "Would remove " else "Removed "
  let first := Message.success (wrote ++ Nat.repr tally.written.length ++ " file(s)")
  let second :=
    if tally.removed = 0 then []
    else [Message.information (removed ++ Nat.repr tally.removed ++ " original(s)")]
  let third :=
    if tally.skipped = 0 then []
    else [Message.warning ("Skipped " ++ Nat.repr tally.skipped ++ " file(s)")]
  first :: (second ++ third)

/-- Moves files, and reports what has been done. -/
def run (options : MoveOptions) (folders : List Path) (files : List TaggedFile) :
    Operation Report := do
  let tally ← moveAll options folders files
  return { files := files, written := tally.written, removed := [],
           messages := messagesOf options tally }

end Transfer

end TagOrganizer
