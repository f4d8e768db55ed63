/-!
# Fragments of a text

Leading pieces of a text and the fragments between the occurrences of a separator. Texts are lists
of characters here; the functions on `String` at the end are what the other modules call. Joining
the fragments of a text with the separator gives the text back (`join_fragments`).
-/

namespace TagOrganizer

namespace Text

/-- What follows `front` in `text`, if `text` begins with it. -/
def stripFront? : (front text : List Char) → Option (List Char)
  | [], text => some text
  | _ :: _, [] => none
  | expected :: front, char :: text => if expected = char then stripFront? front text else none

theorem stripFront?_eq_some_iff {front text rest : List Char} :
    stripFront? front text = some rest ↔ text = front ++ rest := by
  induction front generalizing text with
  | nil => simp [stripFront?]
  | cons expected front ih =>
      cases text with
      | nil => simp [stripFront?]
      | cons char text =>
          by_cases same : expected = char
          · simp [stripFront?, same, ih]
          · simp [stripFront?, same, Ne.symm same]

@[simp]
theorem stripFront?_append (front rest : List Char) :
    stripFront? front (front ++ rest) = some rest :=
  stripFront?_eq_some_iff.2 rfl

theorem length_of_stripFront? {front text rest : List Char}
    (stripped : stripFront? front text = some rest) :
    text.length = front.length + rest.length := by
  rw [stripFront?_eq_some_iff.1 stripped, List.length_append]

/-- Whether a piece occurs somewhere in a text. -/
def occursIn (piece : List Char) : (text : List Char) → Bool
  | [] => piece.isEmpty
  | char :: text => piece.isPrefixOf (char :: text) || occursIn piece text

/-- Puts a character at the front of the first fragment. -/
def consFirst (char : Char) : List (List Char) → List (List Char)
  | [] => [[char]]
  | fragment :: fragments => (char :: fragment) :: fragments

/--
The fragments of a text between the occurrences of the separator `first :: more`, which are found
from left to right and do not overlap. There is one fragment more than there are separators.
-/
def fragments (first : Char) (more : List Char) : List Char → List (List Char)
  | [] => [[]]
  | char :: text =>
      if char = first then
        match _stripped : stripFront? more text with
        | some rest => [] :: fragments first more rest
        | none => consFirst char (fragments first more text)
      else consFirst char (fragments first more text)
termination_by text => text.length
decreasing_by
  · have := length_of_stripFront? _stripped
    simp only [List.length_cons]
    omega
  · simp
  · simp

theorem fragments_ne_nil (first : Char) (more text : List Char) :
    fragments first more text ≠ [] := by
  cases text with
  | nil => simp [fragments]
  | cons char text =>
      unfold fragments
      split
      · split
        · simp
        · cases fragments first more text <;> simp [consFirst]
      · cases fragments first more text <;> simp [consFirst]

theorem intercalate_consFirst (separator : List Char) (char : Char) {pieces : List (List Char)}
    (nonempty : pieces ≠ []) :
    separator.intercalate (consFirst char pieces) = char :: separator.intercalate pieces := by
  match pieces, nonempty with
  | [_], _ => simp [consFirst, List.intercalate]
  | _ :: _ :: _, _ => simp [consFirst, List.intercalate]

/-- No character is lost or added between the fragments. -/
theorem join_fragments (first : Char) (more text : List Char) :
    (first :: more).intercalate (fragments first more text) = text := by
  fun_induction fragments first more text with
  | case1 => simp [List.intercalate]
  | case2 text rest stripped ih =>
      have shape := stripFront?_eq_some_iff.1 stripped
      have nonempty := fragments_ne_nil first more rest
      match pieces : fragments first more rest, nonempty with
      | piece :: pieces', _ =>
          rw [pieces] at ih
          simp only [List.intercalate, List.intersperse_cons_cons, List.flatten_cons,
            List.nil_append] at ih ⊢
          rw [ih, shape]
          simp
  | case3 text stripped ih =>
      rw [intercalate_consFirst _ _ (fragments_ne_nil _ _ _), ih]
  | case4 char text different ih =>
      rw [intercalate_consFirst _ _ (fragments_ne_nil _ _ _), ih]

/-- The fragments of a string between the occurrences of one character. -/
def splitAtChar (separator : Char) (text : String) : List String :=
  (fragments separator [] text.toList).map String.ofList

/--
The lines of a text. A line ends at a line feed; a carriage return before the line feed is not part
of the line, and a text that ends in a line feed has no empty last line.
-/
def lines (text : String) : List String :=
  let pieces := fragments '\n' [] text.toList
  let ended := pieces.dropLast.map dropReturn
  let last := (pieces.getLast?.filter fun piece => !piece.isEmpty).toList
  (ended ++ last).map String.ofList
where
  /-- A line without the carriage return at its end. -/
  dropReturn (line : List Char) : List Char :=
    if line.getLast? = some '\r' then line.dropLast else line

end Text

end TagOrganizer
