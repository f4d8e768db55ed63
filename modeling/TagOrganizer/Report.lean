import TagOrganizer.TaggedFile

/-!
# Reports

What a step of a run reports: the files as they stand, what has been written and removed, and
messages for the user.
-/

namespace TagOrganizer

/-- What a message is about. -/
inductive MessageKind where
  | information
  | success
  | warning
  | error
  deriving DecidableEq

/-- A message for the user. -/
structure Message where
  kind : MessageKind
  content : String
  deriving DecidableEq

namespace Message

/-- A message that something has been done. -/
def information (content : String) : Message := ⟨.information, content⟩

/-- A message that the run succeeded. -/
def success (content : String) : Message := ⟨.success, content⟩

/-- A message that something has been left out. -/
def warning (content : String) : Message := ⟨.warning, content⟩

/-- A message that something failed. -/
def error (content : String) : Message := ⟨.error, content⟩

end Message

/-- What a step of a run reports. -/
structure Report where
  files : List TaggedFile
  /-- The paths that have been written, or would have been on a trial run. -/
  written : List Path
  /-- The folders that have been removed, or would have been on a trial run. -/
  removed : List Path
  messages : List Message

/-- The report of a step that did nothing. -/
def Report.empty : Report := ⟨[], [], [], []⟩

end TagOrganizer
