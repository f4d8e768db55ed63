import TagOrganizer.Error
import TagOrganizer.Version

/-!
# Supported versions

A document names its version as a text or a number. It is read only if that version lies between the
oldest and the newest one that are supported.
-/

namespace TagOrganizer

namespace Version

/-- The text of a version that is given as a text or as any other value. -/
def textOf : Json → String
  | .text text => text
  | other => other.compact

/-- Reads a version number that has to be one. -/
def read (text : String) : Except Error Version :=
  match parse? text with
  | some version => .ok version
  | none => .error (.unreadableVersion text)

/-- Fails unless the version of a document lies between `oldest` and `newest`. -/
def requireSupported (document : Document) (found : Json) (oldest newest : String) :
    Except Error Unit := do
  let text := textOf found
  let mismatch := Error.unsupportedVersion document text oldest newest
  match parse? text with
  | none => throw mismatch
  | some version =>
      let low ← read oldest
      let high ← read newest
      if version.isWithin low high then return () else throw mismatch

end Version

end TagOrganizer
