import TagOrganizer.Regex.Basic

/-!
# Shapes of regular expressions

How expressions are put together. Sequences and choices are flat, a choice between characters is a
set, alternatives that begin alike share their beginning, and what matches only the empty text is
repeated at most once. Which of several matches is preferred depends on these shapes.
-/

namespace TagOrganizer

namespace Regex

/-- Whether an expression matches nothing but the empty text. -/
def onlyEmpty : Regex → Bool
  | empty => true
  | one _ => false
  | look _ => true
  | concat first second => first.onlyEmpty && second.onlyEmpty
  | alternate first second => first.onlyEmpty && second.onlyEmpty
  | repetition body _ most _ => most == some 0 || (most.isSome && body.onlyEmpty)
  | group _ _ body => body.onlyEmpty

/-- Whether no set in an expression lacks characters. -/
def isInhabited : Regex → Bool
  | empty => true
  | one set => !set.isEmpty
  | look _ => true
  | concat first second => first.isInhabited && second.isInhabited
  | alternate first second => first.isInhabited && second.isInhabited
  | repetition body _ _ _ => body.isInhabited
  | group _ _ body => body.isInhabited

/-- Whether what an expression matches has at least one character. -/
def takesSome : Regex → Bool
  | empty => false
  | one _ => true
  | look _ => false
  | concat first second => first.takesSome || second.takesSome
  | alternate first second => first.takesSome && second.takesSome
  | repetition body least _ _ => least != 0 && body.takesSome
  | group _ _ body => body.takesSome

/-- Whether an expression is known to match texts, but not the empty one. -/
def neverEmpty (regex : Regex) : Bool :=
  regex.isInhabited && regex.takesSome

/-- How many expressions there are in an expression. -/
def nodes : Regex → Nat
  | empty => 1
  | one _ => 1
  | look _ => 1
  | concat first second => first.nodes + second.nodes + 1
  | alternate first second => first.nodes + second.nodes + 1
  | repetition body _ _ _ => body.nodes + 1
  | group _ _ body => body.nodes + 1

/-- The parts of a sequence. -/
def factors : Regex → List Regex
  | empty => []
  | concat first second => first.factors ++ second.factors
  | regex => [regex]

/-- The alternatives of a choice. -/
def branches : Regex → List Regex
  | alternate first second => first.branches ++ second.branches
  | regex => [regex]

/-- The sequence of some parts, none of which is a sequence. -/
def ofFactors : List Regex → Regex
  | [] => empty
  | [part] => part
  | part :: parts => concat part (ofFactors parts)

/-- The choice between some alternatives, none of which is a choice. -/
def ofBranches : List Regex → Regex
  | [] => one .none
  | [branch] => branch
  | branch :: branches => alternate branch (ofBranches branches)

/-- A sequence. -/
def sequence (parts : List Regex) : Regex :=
  ofFactors (parts.flatMap factors)

/-- The only character that an expression matches. -/
def onlyChar? : Regex → Option Char
  | one set => set.only?
  | _ => none

/-- The set of which an expression matches one character. -/
def set? : Regex → Option CharSet
  | one set => some set
  | _ => none

/-- The set that a choice between characters or between larger sets stands for. -/
def mergedSet? (alternatives : List Regex) : Option CharSet :=
  let sets := alternatives.filterMap set?
  if sets.length != alternatives.length then none
  else
    let singles := sets.filter fun set => set.only?.isSome
    if singles.isEmpty || singles.length == sets.length then some (CharSet.unionAll sets) else none

/-- The parts of a sequence, of which characters side by side make up one text. -/
def runs (regex : Regex) : List (List Regex) :=
  regex.factors.splitBy fun left right => left.onlyChar?.isSome && right.onlyChar?.isSome

/-- What two lists have in common at the beginning. -/
def commonFront : List (List Regex) → List (List Regex) → List (List Regex)
  | left :: lefts, right :: rights => if left = right then left :: commonFront lefts rights else []
  | _, _ => []

/-- What all sequences among some alternatives begin with, if all of them are sequences. -/
def sharedFront (alternatives : List Regex) : List (List Regex) :=
  let lists := alternatives.map runs
  if lists.all fun list => 2 ≤ list.length then
    match lists with
    | [] => []
    | first :: others => others.foldl commonFront first
  else []

/-- A choice, in which a beginning is shared at most `room` times. -/
def choiceWithin : (room : Nat) → (alternatives : List Regex) → Regex
  | 0, alternatives => ofBranches alternatives
  | room + 1, alternatives =>
      match alternatives.flatMap branches with
      | [] => one .none
      | [branch] => branch
      | alternatives =>
          match mergedSet? alternatives with
          | some set => one set
          | none =>
              let front := sharedFront alternatives
              if front.isEmpty then ofBranches alternatives
              else
                let others := alternatives.map fun branch =>
                  ofFactors (branch.runs.drop front.length).flatten
                sequence (front.flatten ++ [choiceWithin room others])

/-- A choice. -/
def choice (alternatives : List Regex) : Regex :=
  choiceWithin ((alternatives.map nodes).foldl (· + ·) 1) alternatives

/-- A repetition. -/
def repeated (body : Regex) (least : Nat) (most : Option Nat) (greedy : Bool) : Regex :=
  let least := if body.onlyEmpty then min least 1 else least
  let most := if body.onlyEmpty then some (min (most.getD 1) 1) else most
  if least = 0 ∧ most = some 0 then empty
  else if least = 1 ∧ most = some 1 then body
  else repetition body least most greedy

end Regex

end TagOrganizer
