import TagOrganizer.Json.Draft

/-!
# Decoding data texts

A decoder turns a draft into a value of another type. Texts are decoded while they are read, so the
first fault in the order of the text counts; in a value that has been read before, only its shape
can be at fault.
-/

namespace TagOrganizer

namespace Json

/-- Turns a draft into a value. `room` bounds how deep arrays and objects may be nested. -/
abbrev Decoder (α : Type) := (room : Nat) → Draft → Except Fault α

namespace Decoder

/-- The fault of a value that is not of the wanted shape: first of all it has to be a value. -/
def refuse (draft : Draft) : Fault :=
  match draft with
  | .broken breakage => breakage.kept
  | .number none => .malformed
  | .text none => .malformed
  | _ => .mismatched

/-- The room inside an array or object. -/
def enter (room : Nat) : Except Fault Nat :=
  if room ≤ 1 then .error .malformed else .ok (room - 1)

/-- What is wrong with the end of an array or object. -/
def close (ending : Option Breakage) : Except Fault Unit :=
  match ending with
  | none => .ok ()
  | some breakage => .error breakage.kept

mutual

/-- Passes over a value: all of it can be read. -/
def skip : Draft → Except Fault Unit
  | .broken breakage => .error breakage.skipped
  | .array items ending => do
      skipItems items
      skipEnd ending
  | .object fields ending => do
      skipFields fields
      skipEnd ending
  | _ => .ok ()

/-- Passes over the items of an array. -/
def skipItems : List Draft → Except Fault Unit
  | [] => .ok ()
  | item :: items => do
      skip item
      skipItems items

/-- Passes over the fields of an object. -/
def skipFields : List (Option String × Draft) → Except Fault Unit
  | [] => .ok ()
  | (_, value) :: fields => do
      skip value
      skipFields fields

/-- Passes over the end of an array or object. -/
def skipEnd (ending : Option Breakage) : Except Fault Unit :=
  match ending with
  | none => .ok ()
  | some breakage => .error breakage.skipped

end

/-- A truth value. -/
def boolean : Decoder Bool := fun _ draft =>
  match draft with
  | .boolean value => .ok value
  | draft => .error (refuse draft)

/-- A text. -/
def text : Decoder String := fun _ draft =>
  match draft with
  | .text (some value) => .ok value
  | draft => .error (refuse draft)

/-- A whole number that is not negative. -/
def natural : Decoder Nat := fun _ draft =>
  match draft with
  | .number (some (.natural value)) => .ok value
  | draft => .error (refuse draft)

/-- A value that may be missing, written as `null`. -/
def optional {α : Type} (decoder : Decoder α) : Decoder (Option α) := fun room draft =>
  match draft with
  | .null => .ok none
  | draft => (decoder room draft).map some

/-- A list of values. -/
def list {α : Type} (decoder : Decoder α) : Decoder (List α) := fun room draft =>
  match draft with
  | .array items ending => do
      let inner ← enter room
      let values ← items.mapM (decoder inner)
      close ending
      return values
  | draft => .error (refuse draft)

mutual

/-- Any value. -/
def value : Decoder Json := fun room draft =>
  match draft with
  | .null => .ok .null
  | .boolean value => .ok (.boolean value)
  | .number (some value) => .ok (.number value)
  | .text (some value) => .ok (.text value)
  | .array items ending => do
      let inner ← enter room
      let values ← valueItems inner items
      close ending
      return .array values
  | .object fields ending => do
      let inner ← enter room
      let entries ← valueFields inner fields
      close ending
      return Json.ofFields entries
  | draft => .error (refuse draft)

/-- The items of an array. -/
def valueItems (room : Nat) : List Draft → Except Fault (List Json)
  | [] => .ok []
  | item :: items => do
      let first ← value room item
      let others ← valueItems room items
      return first :: others

/-- The fields of an object. -/
def valueFields (room : Nat) :
    List (Option String × Draft) → Except Fault (List (String × Json))
  | [] => .ok []
  | (none, _) :: _ => .error .malformed
  | (some name, content) :: fields => do
      let first ← value room content
      let others ← valueFields room fields
      return (name, first) :: others

end

/-- A field of a record of type `ρ`: `read` decodes it and gives the change to the record. -/
structure RecordField (ρ : Type) where
  name : String
  required : Bool
  read : Decoder (ρ → ρ)

/-- A field that has to be given. -/
def RecordField.must {α ρ : Type} (name : String) (decoder : Decoder α) (set : α → ρ → ρ) :
    RecordField ρ :=
  ⟨name, true, fun room draft => (decoder room draft).map set⟩

/-- A field that may be left out. -/
def RecordField.may {α ρ : Type} (name : String) (decoder : Decoder α) (set : α → ρ → ρ) :
    RecordField ρ :=
  ⟨name, false, fun room draft => (decoder room draft).map set⟩

/-- Reads a record given as an object. `seen` are the names of the fields read so far. -/
def recordFields {ρ : Type} (fields : List (RecordField ρ)) (room : Nat)
    (ending : Option Breakage) :
    (seen : List String) → (record : ρ) → List (Option String × Draft) → Except Fault ρ
  | seen, record, [] => do
      close ending
      if fields.any fun field => field.required && !seen.contains field.name then
        .error .mismatched
      else return record
  | _, _, (none, _) :: _ => .error .malformed
  | seen, record, (some name, content) :: rest =>
      match fields.find? fun field => field.name == name with
      | none => do
          skip content
          recordFields fields room ending seen record rest
      | some field =>
          if seen.contains name then .error .mismatched
          else do
            let change ← field.read room content
            recordFields fields room ending (name :: seen) (change record) rest

/-- Reads a record given as an array of its fields. Fields at the end may be left out. -/
def recordItems {ρ : Type} (room : Nat) (ending : Option Breakage) :
    (fields : List (RecordField ρ)) → (record : ρ) → List Draft → Except Fault ρ
  | [], record, [] => do
      close ending
      return record
  | [], _, _ :: _ => .error .malformed
  | fields, record, [] => do
      close ending
      if fields.any fun field => field.required then .error .mismatched else return record
  | field :: fields, record, item :: items => do
      let change ← field.read room item
      recordItems room ending fields (change record) items

/--
A record, given as an object or as an array of its fields. A field may be given only once; fields
that the record does not have are passed over.
-/
def record {ρ : Type} (fields : List (RecordField ρ)) (start : ρ) : Decoder ρ := fun room draft =>
  match draft with
  | .object entries ending => do
      let inner ← enter room
      recordFields fields inner ending [] start entries
  | .array items ending => do
      let inner ← enter room
      recordItems inner ending fields start items
  | draft => .error (refuse draft)

/-- The room that a text leaves: less than 128 arrays and objects inside each other. -/
def textRoom : Nat := 128

/-- Decodes a text while it is read. Nothing may follow the value. -/
def ofText {α : Type} (decoder : Decoder α) (source : String) : Except Fault α := do
  let (draft, more) := Draft.ofText source
  let value ← decoder textRoom draft
  if more then .error .malformed else return value

/-- Decodes a value. Only its shape can be at fault. -/
def ofJson {α : Type} (decoder : Decoder α) (json : Json) : Except Fault α :=
  let draft := Draft.ofJson json
  (decoder (draft.depth + 2) draft).mapError fun _ => .mismatched

end Decoder

/-- The value that a text holds. -/
def ofText (source : String) : Except Fault Json :=
  Decoder.ofText Decoder.value source

end Json

end TagOrganizer
