import TagOrganizer.Proofs.Selection.Meaning
import TagOrganizer.Template.Substitution

/-!
# Grammar of formats

The formats that mean what they look like: texts without slashes, operators with proper names,
conditionals with readable conditions, whose branches hold no conditionals, and iteration spans
around any of these. Each phrase of the grammar says how it is written and what it comes out as.
-/

namespace TagOrganizer

namespace Template

namespace Grammar

/-- A text in which no marker can begin. -/
structure Plain where
  text : String
  slashless : '/' ∉ text.toList

/-- A name of a tag or a group. -/
structure Name where
  text : String
  filled : text ≠ ""
  slashless : '/' ∉ text.toList

/-- A condition set that can be read. -/
structure Guard where
  text : String
  set : ConditionSet
  read : (ConditionSet.parse text).result = .ok set

/-- What may stand in a branch of a conditional. -/
inductive Simple where
  | text (plain : Plain)
  | file
  | extension
  | tags
  | tagInGroup (group : Name)

/-- What may stand outside of iteration spans. -/
inductive Item where
  | simple (phrase : Simple)
  | tagChoice (tag : Name)
  | groupChoice (group : Name)
  | conditional (guard : Guard) (yes no : List Simple)

/-- What may stand in an iteration span. -/
inductive SpanItem where
  | item (phrase : Item)
  | occurrence

/-- What a format consists of. -/
inductive Element where
  | item (phrase : Item)
  | span (inner : List SpanItem)

/-! ### How phrases are written -/

/-- How a phrase of a branch is written. -/
def Simple.written : Simple → List Char
  | text plain => plain.text.toList
  | file => ['/', 'F', 'I', 'L', 'E', '|']
  | extension => ['/', 'E', 'X', 'T', '|']
  | tags => ['/', 'T', 'A', 'G', 'S', '|']
  | tagInGroup group => ['/', '?', 'T', 'I', 'G', '|'] ++ group.text.toList ++ ['/', '|']

/-- How a phrase outside of spans is written. -/
def Item.written : Item → List Char
  | simple phrase => phrase.written
  | tagChoice tag => ['/', '?', 'T', '|'] ++ tag.text.toList ++ ['/', '|']
  | groupChoice group => ['/', '?', 'G', '|'] ++ group.text.toList ++ ['/', '|']
  | conditional guard yes no =>
      ['/', '?', '|'] ++ guard.text.toList ++ ['/', 'T', '|'] ++ yes.flatMap Simple.written ++
        ['/', 'F', '|'] ++ no.flatMap Simple.written ++ ['/', 'E', '?', '|']

/-- How a phrase of a span is written. -/
def SpanItem.written : SpanItem → List Char
  | item phrase => phrase.written
  | occurrence => ['/', '#', '|']

/-- How a phrase of a format is written. -/
def Element.written : Element → List Char
  | item phrase => phrase.written
  | span inner =>
      ['/', 'I', 'T', 'E', 'R', '|'] ++ inner.flatMap SpanItem.written ++
        ['/', 'E', 'I', 'T', 'E', 'R', '|']

/-- The format of some phrases. -/
def formatOf (elements : List Element) : String :=
  String.ofList (elements.flatMap Element.written)

/-- Phrases around one span, which holds a mark and the number of the occurrence. -/
def numberedBehind (mark : Plain) (front back : List Item) : List Element :=
  front.map .item ++ .span [.item (.simple (.text mark)), .occurrence] :: back.map .item

/-! ### What phrases come out as -/

section Values

variable (file : TaggedFile) (belongs : (tag group : String) → Bool)

/-- What a phrase of a branch comes out as. -/
def Simple.value : Simple → List Char
  | text plain => plain.text.toList
  | .file => file.baseName.toList
  | extension => file.extension.toList
  | tags => file.tagSection.toList
  | tagInGroup group => ((file.tags.find? fun tag => belongs tag group.text).getD "").toList

/-- Whether all conditions of a condition set are met. -/
def Guard.meets (guard : Guard) : Bool :=
  guard.set.conditions.all fun condition => condition.meets file.tags belongs

/-- What a phrase outside of spans comes out as. -/
def Item.value : Item → List Char
  | simple phrase => phrase.value file belongs
  | tagChoice tag => if tag.text ∈ file.tags then tag.text.toList else []
  | groupChoice group =>
      if ∃ tag ∈ file.tags, belongs tag group.text = true then group.text.toList else []
  | conditional guard yes no =>
      (if guard.meets file belongs then yes else no).flatMap (Simple.value file belongs)

/-- What phrases come out as, one after the other. -/
def valueOf (items : List Item) : String :=
  String.ofList (items.flatMap (Item.value file belongs))

end Values

/-- The phrases outside of all spans. -/
def alone (elements : List Element) : List Item :=
  elements.flatMap fun element =>
    match element with
    | .item phrase => [phrase]
    | .span _ => []

theorem isDigit_of_mem_repr {number : Nat} {digit : Char}
    (present : digit ∈ (Nat.repr number).toList) : digit.isDigit = true := by
  rw [Nat.repr, String.toList_ofList] at present
  exact Nat.isDigit_of_mem_toDigits (by decide) (by decide) present

theorem slash_not_mem_repr (number : Nat) : '/' ∉ (Nat.repr number).toList := by
  intro present
  exact absurd (isDigit_of_mem_repr present) (by decide)

/-- The decimal digits of a number. -/
def decimal (number : Nat) : Plain where
  text := Nat.repr number
  slashless := slash_not_mem_repr number

/-- A phrase of a span with the number of the occurrence. -/
def SpanItem.numbered (number : Nat) : SpanItem → Item
  | item phrase => phrase
  | occurrence => .simple (.text (decimal number))

/-- The phrases of a format with its spans unwrapped. -/
def numbered (number : Nat) (elements : List Element) : List Item :=
  elements.flatMap fun element =>
    match element with
    | .item phrase => [phrase]
    | .span inner => inner.map (SpanItem.numbered number)

end Grammar

end Template

end TagOrganizer
