import TagOrganizer.Logged
import TagOrganizer.Pattern

/-!
# Tagged files

A tagged file carries tags in its name. A tag format says which part of a name is which: it captures
the plain name, the section with the tags and the extension. The first format that matches a name
counts; a file whose name matches an ignore pattern is left alone.
-/

namespace TagOrganizer

/-- How tags are embedded in a file name. -/
structure TagFormat where
  /-- Matches whole names and captures their parts. -/
  name : Pattern
  /-- Matches what stands between two tags. -/
  separator : Pattern

namespace TagFormat

/-- Reads a format. -/
def parse (name separator : String) : Except Error TagFormat := do
  let name ← Pattern.whole name
  let separator ← Pattern.anywhere separator
  return ⟨name, separator⟩

end TagFormat

/-- A tagged file and what has been decided about it. -/
structure TaggedFile where
  /-- The name without tags and extension. -/
  baseName : String
  /-- The tags in the order of the name. -/
  tags : List String
  /-- The section of the name that holds the tags. -/
  tagSection : String
  /-- The extension with its dot, or nothing. -/
  extension : String
  /-- The whole name. -/
  rawName : String
  /-- Where the file has been found. -/
  location : Path
  /-- The folder for the file, relative to an output folder. -/
  destination : Path
  /-- The name that the file is going to have. -/
  outputName : String
  /-- Whether no place was found for the file. -/
  moveFailed : Bool
  /-- Whether no name was found for the file. -/
  renameFailed : Bool

namespace TaggedFile

/-- The name without tags, by which names that nobody chose are recognized. -/
def untaggedName (file : TaggedFile) : String :=
  file.baseName ++ file.extension

/-- A file about which nothing has been decided. -/
def undecided (baseName tagSection extension : String) (tags : List String) (rawName : String)
    (location : Path) : TaggedFile :=
  { baseName, tags, tagSection, extension, rawName, location
    destination := Path.empty
    outputName := rawName
    moveFailed := false
    renameFailed := false }

/-- The file with the parts of its name that a format has captured. -/
def ofCaptures (format : TagFormat) (captures : List (String × String)) (rawName : String)
    (location : Path) : TaggedFile :=
  let part := fun (key : String) => (captures.lookup key).getD ""
  let tags := (format.separator.split (part "tags")).filter fun tag => tag != ""
  undecided (part "file") (part "raw_tags") (part "extension") tags rawName location

/-- The format that matches a name first, and what it captures. -/
def findFormat? (formats : List TagFormat) (name : String) :
    Option (TagFormat × List (String × String)) :=
  formats.findSome? fun format => (format.name.captures? name).map fun found => (format, found)

/-- Takes a name apart; there is nothing to do for a file without tags or one to be ignored. -/
def ofName (name : String) (location : Path) (formats : List TagFormat) (ignored : List Pattern) :
    Logged (Option TaggedFile) := do
  match findFormat? formats name with
  | none =>
      tell (.fileUntagged location)
      return none
  | some (format, captures) =>
      if ignored.any fun pattern => pattern.isMatch name then
        tell (.fileIgnored location)
        return none
      else
        tell (.fileFound location)
        return some (ofCaptures format captures name location)

end TaggedFile

end TagOrganizer
