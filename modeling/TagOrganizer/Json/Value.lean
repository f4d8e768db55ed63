import TagOrganizer.Json.Number

/-!
# Data values

The values of a data text. The fields of an object have different names and are kept in the order of
their names, so that equal objects are equal values; of several entries for one name the last
counts.
-/

namespace TagOrganizer

/-- A value of a data text. -/
inductive Json where
  | null
  | boolean (value : Bool)
  | number (value : Json.Number)
  | text (value : String)
  | array (items : List Json)
  | object (fields : List (String × Json))

namespace Json

/-- Sets the field `name`, keeping the fields in the order of their names. -/
def setField (name : String) (value : Json) : List (String × Json) → List (String × Json)
  | [] => [(name, value)]
  | (other, content) :: fields =>
      if name = other then (name, value) :: fields
      else if name < other then (name, value) :: (other, content) :: fields
      else (other, content) :: setField name value fields

/-- The object with the given entries, the last one of each name. -/
def ofFields (entries : List (String × Json)) : Json :=
  .object (entries.foldl (fun fields entry => setField entry.1 entry.2 fields) [])

/-- The field `name` of an object. -/
def get? (name : String) : Json → Option Json
  | .object fields => fields.lookup name
  | _ => none

/-- The text of a value that is a text. -/
def asText? : Json → Option String
  | .text value => some value
  | _ => none

/-- What kind of value it is. -/
def kindName : Json → String
  | .null => "null"
  | .boolean _ => "boolean"
  | .number _ => "number"
  | .text _ => "string"
  | .array _ => "array"
  | .object _ => "object"

end Json

end TagOrganizer
