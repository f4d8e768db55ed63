import TagOrganizer.Text.Fragment

/-!
# Tokens of formats

A format is a text with markers. Markers are recognized anywhere, from left to right; a slash that
does not begin a marker is text. The tokens of a format are written one after the other to give the
format back.
-/

namespace TagOrganizer

namespace Template

/-- A token of a format. -/
inductive Token where
  | text (text : String)
  /-- The base name of the file. -/
  | file
  /-- The extension of the file. -/
  | extension
  /-- The tag section of the file. -/
  | tags
  | conditionStart
  | whenTrue
  | whenFalse
  | conditionEnd
  /-- A tag, if the file carries it. -/
  | tagChoice (tag : String)
  /-- The name of a group, if the file belongs to it. -/
  | groupChoice (group : String)
  /-- The tag of the file that belongs to a group. -/
  | tagInGroup (group : String)
  | spanStart
  /-- The number of an occurrence. -/
  | occurrence
  | spanEnd
  deriving DecidableEq

namespace Token

/-- The markers that stand alone. -/
def plainMarkers : List (Token × List Char) :=
  [ (spanEnd, ['/', 'E', 'I', 'T', 'E', 'R', '|']),
    (spanStart, ['/', 'I', 'T', 'E', 'R', '|']),
    (file, ['/', 'F', 'I', 'L', 'E', '|']),
    (tags, ['/', 'T', 'A', 'G', 'S', '|']),
    (extension, ['/', 'E', 'X', 'T', '|']),
    (conditionEnd, ['/', 'E', '?', '|']),
    (conditionStart, ['/', '?', '|']),
    (occurrence, ['/', '#', '|']),
    (whenTrue, ['/', 'T', '|']),
    (whenFalse, ['/', 'F', '|']) ]

/-- What begins the choice of a tag. -/
def tagChoiceMark : List Char := ['/', '?', 'T', '|']

/-- What begins the choice of a group. -/
def groupChoiceMark : List Char := ['/', '?', 'G', '|']

/-- What begins the search for a tag of a group. -/
def tagInGroupMark : List Char := ['/', '?', 'T', 'I', 'G', '|']

/-- What ends a name. -/
def nameEnd : List Char := ['/', '|']

/-- A token with a name as it is written. -/
def sourceOfName (mark : List Char) (name : String) : List Char :=
  mark ++ name.toList ++ nameEnd

/-- A token as it is written. -/
def source : Token → List Char
  | text written => written.toList
  | tagChoice tag => sourceOfName tagChoiceMark tag
  | groupChoice group => sourceOfName groupChoiceMark group
  | tagInGroup group => sourceOfName tagInGroupMark group
  | marker => (plainMarkers.lookup marker).getD []

/-- Reads a name up to its end; it is not empty and holds no slash. -/
def readName? (source : List Char) : Option (String × List Char) :=
  let name := source.takeWhile (· != '/')
  if name.isEmpty then none
  else
    (Text.stripFront? nameEnd (source.dropWhile (· != '/'))).map fun rest =>
      (String.ofList name, rest)

/-- Reads a token with a name. -/
def readNamed? (mark : List Char) (build : String → Token) (source : List Char) :
    Option (Token × List Char) := do
  let rest ← Text.stripFront? mark source
  let (name, rest) ← readName? rest
  return (build name, rest)

/-- Reads a marker that stands alone. -/
def readPlain? (source : List Char) : Option (Token × List Char) :=
  plainMarkers.findSome? fun marker =>
    (Text.stripFront? marker.2 source).map fun rest => (marker.1, rest)

/-- Reads the marker that a text begins with, if it does. -/
def readMarker? (source : List Char) : Option (Token × List Char) :=
  readNamed? tagInGroupMark tagInGroup source <|>
    readNamed? tagChoiceMark tagChoice source <|>
    readNamed? groupChoiceMark groupChoice source <|>
    readPlain? source

theorem length_of_readName? {source rest : List Char} {name : String}
    (read : readName? source = some (name, rest)) : rest.length < source.length := by
  simp only [readName?] at read
  split at read
  · cases read
  · obtain ⟨found, stripped, equal⟩ := Option.map_eq_some_iff.1 read
    obtain ⟨-, rfl⟩ := Prod.mk.inj equal
    have shorter := Text.length_of_stripFront? stripped
    have whole := congrArg List.length (List.takeWhile_append_dropWhile (l := source)
      (p := fun char => char != '/'))
    simp only [List.length_append, nameEnd, List.length_cons, List.length_nil] at shorter whole
    omega

theorem length_of_readNamed? {mark source rest : List Char} {build : String → Token}
    {token : Token} (read : readNamed? mark build source = some (token, rest)) :
    rest.length < source.length := by
  simp only [readNamed?, Option.bind_eq_bind, Option.bind_eq_some_iff, Option.pure_def,
    Option.some.injEq, Prod.mk.injEq, Prod.exists] at read
  obtain ⟨after, stripped, name, remaining, named, -, rfl⟩ := read
  have shorter := Text.length_of_stripFront? stripped
  have less := length_of_readName? named
  omega

theorem length_of_readPlain? {source rest : List Char} {token : Token}
    (read : readPlain? source = some (token, rest)) : rest.length < source.length := by
  obtain ⟨marker, present, found⟩ := List.exists_of_findSome?_eq_some read
  obtain ⟨after, stripped, equal⟩ := Option.map_eq_some_iff.1 found
  obtain ⟨-, rfl⟩ := Prod.mk.inj equal
  have shorter := Text.length_of_stripFront? stripped
  have long : ∀ marker ∈ plainMarkers, 0 < marker.2.length := by decide
  have positive := long marker present
  omega

/-- A marker is not empty. -/
theorem length_of_readMarker? {source rest : List Char} {token : Token}
    (read : readMarker? source = some (token, rest)) : rest.length < source.length := by
  simp only [readMarker?, Option.orElse_eq_orElse, Option.orElse_eq_or, Option.or_eq_some_iff]
    at read
  rcases read with read | ⟨-, read | ⟨-, read | ⟨-, read⟩⟩⟩
  · exact length_of_readNamed? read
  · exact length_of_readNamed? read
  · exact length_of_readNamed? read
  · exact length_of_readPlain? read

/-- Puts a text, whose last character comes first, in front of tokens; an empty one is left out. -/
def consText (backward : List Char) (tokens : List Token) : List Token :=
  if backward.isEmpty then tokens else text (String.ofList backward.reverse) :: tokens

end Token

/-- The tokens of the characters of a format, of whose first text `backward` has been read. -/
def tokensFrom (backward : List Char) : (source : List Char) → List Token
  | [] => Token.consText backward []
  | char :: rest =>
      match _read : Token.readMarker? (char :: rest) with
      | some (token, after) => Token.consText backward (token :: tokensFrom [] after)
      | none => tokensFrom (char :: backward) rest
termination_by source => source.length
decreasing_by
  · exact Token.length_of_readMarker? _read
  · simp

/-- The tokens of a format. -/
def tokens (format : String) : List Token :=
  tokensFrom [] format.toList

/-- The format with the given tokens. -/
def source (tokens : List Token) : String :=
  String.ofList (tokens.flatMap Token.source)

end Template

end TagOrganizer
