import TagOrganizer.Error
import TagOrganizer.Regex.Parser
import TagOrganizer.Regex.Search

/-!
# Patterns

Regular expressions as they are written in rules. A pattern has to match a whole text, or its
beginning, or may match anywhere; the anchors that say so are written around it before it is read,
so that the anchored text is one regular expression.
-/

namespace TagOrganizer

/-- A regular expression and its text, anchors included. -/
structure Pattern where
  source : String
  regex : Regex

namespace Pattern

/-- The pattern with a text, which is called `shown` if it is not a regular expression. -/
def ofSource (shown source : String) : Except Error Pattern :=
  match Regex.parse? source with
  | some regex => .ok ⟨source, regex⟩
  | none => .error (.invalidPattern shown)

/-- A pattern that matches whole texts. -/
def whole (pattern : String) : Except Error Pattern :=
  ofSource pattern ("^(?:" ++ pattern ++ ")$")

/-- A pattern that matches the beginning of a text. -/
def leading (pattern : String) : Except Error Pattern :=
  ofSource pattern ("^(?:" ++ pattern ++ ")")

/-- A pattern that may match anywhere. -/
def anywhere (pattern : String) : Except Error Pattern :=
  ofSource pattern pattern

/-- Whether a pattern matches a text. -/
def isMatch (pattern : Pattern) (text : String) : Bool :=
  pattern.regex.isMatch text

/-- What a match of a text captures under each name. -/
def captures? (pattern : Pattern) (text : String) : Option (List (String × String)) :=
  (pattern.regex.find? text).map Regex.Match.captures

/-- The pieces of a text between the matches of a pattern. -/
def split (pattern : Pattern) (text : String) : List String :=
  pattern.regex.split text

end Pattern

end TagOrganizer
