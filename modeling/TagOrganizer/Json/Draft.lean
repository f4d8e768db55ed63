import TagOrganizer.Json.Token
import TagOrganizer.Json.Value

/-!
# Drafts of data texts

A draft is what can be read of a data text: a tree in which a place that cannot be read is a broken
leaf or the broken end of an array or object. A decoder walks a draft from left to right, so of two
faults of a text it meets the earlier one.
-/

namespace TagOrganizer

namespace Json

/-- What can be read of a value. -/
inductive Draft where
  | null
  | boolean (value : Bool)
  /-- A number; `none` when it is out of range. -/
  | number (value : Option Number)
  /-- A text; `none` when half of a surrogate pair is missing. -/
  | text (value : Option String)
  /-- The items of an array, and what is wrong with its end. -/
  | array (items : List Draft) (ending : Option Breakage)
  /-- The fields of an object, and what is wrong with its end. -/
  | object (fields : List (Option String × Draft)) (ending : Option Breakage)
  | broken (breakage : Breakage)

namespace Draft

/-- What is wrong where a value should begin. -/
def valueBreakage : List Token → Breakage
  | [] => .truncated
  | .brokenText breakage :: _ => breakage
  | .brokenWord breakage :: _ => breakage
  | _ :: _ => .malformed

/-- What is wrong where the name of a field should begin. -/
def nameBreakage : List Token → Breakage
  | [] => .truncated
  | .brokenText breakage :: _ => breakage
  | _ :: _ => .malformed

/-- What is wrong where a comma, a colon or a closing bracket should stand. -/
def markBreakage : List Token → Breakage
  | [] => .truncated
  | _ :: _ => .malformed

mutual

/-- Reads a value. The second part is the rest of the tokens, `none` after a breakage. -/
def readValue : (room : Nat) → List Token → Draft × Option (List Token)
  | 0, _ => (.broken .truncated, none)
  | room + 1, tokens =>
      match tokens with
      | .null :: rest => (.null, some rest)
      | .boolean value :: rest => (.boolean value, some rest)
      | .number value :: rest => (.number value, some rest)
      | .text value :: rest => (.text value, some rest)
      | .openArray :: .closeArray :: rest => (.array [] none, some rest)
      | .openArray :: rest =>
          if rest.isEmpty then (.array [] (some .truncated), none) else readItems room [] rest
      | .openObject :: .closeObject :: rest => (.object [] none, some rest)
      | .openObject :: rest => readFields room [] rest
      | tokens => (.broken (valueBreakage tokens), none)

/-- Reads the items of an array, of which `read` have been read, newest first. -/
def readItems : (room : Nat) → (read : List Draft) → List Token → Draft × Option (List Token)
  | 0, read, _ => (.array read.reverse (some .truncated), none)
  | room + 1, read, tokens =>
      match readValue room tokens with
      | (item, none) => (.array (item :: read).reverse (some .malformed), none)
      | (item, some (.comma :: rest)) => readItems room (item :: read) rest
      | (item, some (.closeArray :: rest)) => (.array (item :: read).reverse none, some rest)
      | (item, some rest) => (.array (item :: read).reverse (some (markBreakage rest)), none)

/-- Reads the fields of an object, of which `read` have been read, newest first. -/
def readFields :
    (room : Nat) → (read : List (Option String × Draft)) → List Token → Draft × Option (List Token)
  | 0, read, _ => (.object read.reverse (some .truncated), none)
  | room + 1, read, tokens =>
      match tokens with
      | .text name :: .colon :: rest =>
          match readValue room rest with
          | (value, none) => (.object ((name, value) :: read).reverse (some .malformed), none)
          | (value, some (.comma :: rest)) => readFields room ((name, value) :: read) rest
          | (value, some (.closeObject :: rest)) =>
              (.object ((name, value) :: read).reverse none, some rest)
          | (value, some rest) =>
              (.object ((name, value) :: read).reverse (some (markBreakage rest)), none)
      | .text name :: rest =>
          (.object ((name, .broken (markBreakage rest)) :: read).reverse (some .malformed), none)
      | tokens => (.object read.reverse (some (nameBreakage tokens)), none)

end

/-- The draft of a text, and whether anything follows its value. -/
def ofText (source : String) : Draft × Bool :=
  let tokens := Token.listOf source
  let (draft, rest) := readValue (tokens.length + 1) tokens
  (draft, rest.any fun rest => !rest.isEmpty)

mutual

/-- The draft of a value. -/
def ofJson : Json → Draft
  | .null => .null
  | .boolean value => .boolean value
  | .number value => .number (some value)
  | .text value => .text (some value)
  | .array items => .array (ofItems items) none
  | .object fields => .object (ofFields fields) none

/-- The drafts of the items of an array. -/
def ofItems : List Json → List Draft
  | [] => []
  | item :: items => ofJson item :: ofItems items

/-- The drafts of the fields of an object. -/
def ofFields : List (String × Json) → List (Option String × Draft)
  | [] => []
  | (name, value) :: fields => (some name, ofJson value) :: ofFields fields

end

mutual

/-- How deep arrays and objects are nested. -/
def depth : Draft → Nat
  | .array items _ => itemsDepth items + 1
  | .object fields _ => fieldsDepth fields + 1
  | _ => 0

/-- How deep the deepest item of an array is nested. -/
def itemsDepth : List Draft → Nat
  | [] => 0
  | item :: items => max (depth item) (itemsDepth items)

/-- How deep the deepest field of an object is nested. -/
def fieldsDepth : List (Option String × Draft) → Nat
  | [] => 0
  | (_, value) :: fields => max (depth value) (fieldsDepth fields)

end

end Draft

end Json

end TagOrganizer
