import TagOrganizer.Regex.Property.Age
import TagOrganizer.Regex.Property.Break

/-!
# Named classes of characters

The sets of characters that are described by a name such as `Greek`, which may belong to a property,
a general category or a script, or by a property and its value, as in `Script=Greek`.
-/

namespace TagOrganizer

namespace Regex

/-- The characters that a folded name stands for. -/
def namedClass? (name : String) : Option CharSet :=
  binary? name <|> category? name <|> (scriptCode? name).map inScript

/-- The characters for which a property has a value; the names of both are folded. -/
def valuedClass? (property value : String) : Option CharSet :=
  if isNamed "gc General_Category" property then category? value
  else if isNamed "sc Script" property then (scriptCode? value).map inScript
  else if isNamed "scx Script_Extensions" property then (scriptCode? value).map usedInScript
  else if isNamed "age" property then age? value
  else if isNamed "GCB Grapheme_Cluster_Break" property then lookUp? characterBreaks value
  else if isNamed "WB Word_Break" property then lookUp? wordBreaks value
  else if isNamed "SB Sentence_Break" property then lookUp? sentenceBreaks value
  else none

/-- What stands before and behind the first place with a separator. -/
def cutAt? (separator : List Char) : List Char → Option (List Char × List Char)
  | [] => none
  | char :: rest =>
      match Text.stripFront? separator (char :: rest) with
      | some behind => some ([], behind)
      | none => (cutAt? separator rest).map fun (before, behind) => (char :: before, behind)

/--
The characters of a named class. A property and its value are separated by a colon or an equals
sign; `!=` does not make a difference, although it looks like the opposite.
-/
def classSet? (name : List Char) : Option CharSet :=
  match cutAt? ['!', '='] name <|> cutAt? [':'] name <|> cutAt? ['='] name with
  | some (property, value) =>
      valuedClass? (foldName (String.ofList property)) (foldName (String.ofList value))
  | none => namedClass? (foldName (String.ofList name))

end Regex

end TagOrganizer
