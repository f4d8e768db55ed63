import TagOrganizer.CommandLine.Program
import TagOrganizer.FileTree.Listing
import TagOrganizer.Json.Printer

/-!
# The command line

The program as a command. The files and folders to organize come as a listing on standard input, one
entry a line. What the run prints goes to standard output, followed by the listing of the files and
folders afterwards; what it logs and its errors go to standard error.
-/

namespace TagOrganizer

namespace CommandLine

/-- The time that log lines begin with: a listing has no clock. -/
def noTime : String := "1970-01-01T00:00:00.000000Z"

/-- The entries of a listing, one a line. -/
def readEntries (lines : List String) : Except Error (List FileTree.Entry) :=
  (lines.mapM (Json.Decoder.ofText FileTree.Entry.decoder)).mapError Error.unreadable

/-- Runs the program on the entries of a listing. -/
def runOnEntries (user : Option Path) (arguments : List String) (entries : List FileTree.Entry) :
    Outcome × List FileTree.Entry :=
  let (outcome, tree) := run noTime user arguments ((FileTree.bare []).addAll entries)
  (outcome, tree.listing)

/-- The lines of a stream up to its end. -/
partial def readLines (stream : IO.FS.Stream) (read : List String) : IO (List String) := do
  let line ← stream.getLine
  if line.isEmpty then return read.reverse else readLines stream (line :: read)

end CommandLine

end TagOrganizer

open TagOrganizer

/-- Runs the program on the listing on standard input. -/
def main (arguments : List String) : IO UInt32 := do
  let lines ← CommandLine.readLines (← IO.getStdin) []
  match CommandLine.readEntries lines with
  | .error error =>
      IO.eprintln ("Error: " ++ error.message)
      return 1
  | .ok entries =>
      let folder ← IO.getEnv "XDG_CONFIG_HOME"
      let user := folder.map fun folder => Options.userFile ⟨folder⟩
      let (outcome, after) := CommandLine.runOnEntries user arguments entries
      for line in outcome.output do
        IO.println line
      for line in outcome.diagnostics CommandLine.noTime do
        IO.eprintln line
      for entry in after do
        IO.println entry.toJson.compact
      return UInt32.ofNat outcome.code
