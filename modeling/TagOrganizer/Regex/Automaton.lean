import TagOrganizer.Regex.Shape

/-!
# Automata of regular expressions

An expression is an automaton whose states are numbered through: the states of a part lie side by
side, beginning with the one in which the part is entered, and a repeated part has states of its own
for each required and each optional time. What happens in a state is computed from the expression
whenever it is needed, so that no automaton is ever built.
-/

namespace TagOrganizer

namespace Regex

/-- What an automaton does in a state. -/
inductive Node where
  /-- Reads a character of a set. -/
  | read (set : CharSet) (next : Nat)
  /-- Goes on where a condition holds. -/
  | check (look : Look) (next : Nat)
  /-- Goes on in either state, better in the first one. -/
  | fork (first second : Nat)
  /-- Enters a group. -/
  | enter (name : Option String) (next : Nat)
  /-- Leaves a group. -/
  | leave (name : Option String) (next : Nat)
  | jump (next : Nat)

/-- A choice between another round of a repetition and its end. -/
def Node.again (greedy : Bool) (round exit : Nat) : Node :=
  if greedy then .fork round exit else .fork exit round

/-- How many states an expression has. -/
def stateCount : Regex → Nat
  | empty => 1
  | one _ => 1
  | look _ => 1
  | concat first second => first.stateCount + second.stateCount
  | alternate first second => 1 + first.stateCount + second.stateCount
  | repetition body least most _ =>
      match most with
      | none =>
          if least = 0 then (if body.neverEmpty then 1 else 2) + body.stateCount
          else least * body.stateCount + 1
      | some most => 1 + least * body.stateCount + (most - least) * (1 + body.stateCount)
  | group _ _ body => 2 + body.stateCount

/--
What happens in `state`, one of the states of an expression that are numbered from `entry` on. The
automaton goes on to `exit` where the expression has been matched.
-/
def node : Regex → (entry exit state : Nat) → Node
  | empty, _, exit, _ => .jump exit
  | one set, _, exit, _ => .read set exit
  | look condition, _, exit, _ => .check condition exit
  | concat first second, entry, exit, state =>
      let middle := entry + first.stateCount
      if state < middle then first.node entry middle state else second.node middle exit state
  | alternate first second, entry, exit, state =>
      let middle := entry + 1 + first.stateCount
      if state = entry then .fork (entry + 1) middle
      else if state < middle then first.node (entry + 1) exit state
      else second.node middle exit state
  | group _ name body, entry, exit, state =>
      if state = entry then .enter name (entry + 2)
      else if state = entry + 1 then .leave name exit
      else body.node (entry + 2) (entry + 1) state
  | repetition body least most greedy, entry, exit, state =>
      let size := body.stateCount
      match most with
      | none =>
          if least = 0 then
            if body.neverEmpty then
              if state = entry then .again greedy (entry + 1) exit
              else body.node (entry + 1) entry state
            else if state ≤ entry + 1 then .again greedy (entry + 2) exit
            else body.node (entry + 2) (entry + 1) state
          else
            let loop := entry + least * size
            if state = loop then .again greedy (loop - size) exit
            else
              let round := entry + (state - entry) / size * size
              body.node round (round + size) state
      | some most =>
          let optional := entry + 1 + least * size
          let stop := optional + (most - least) * (1 + size)
          let exitAt := fun place => if place < stop then place else exit
          if state = entry then .jump (exitAt (entry + 1))
          else if state < optional then
            let round := entry + 1 + (state - entry - 1) / size * size
            body.node round (exitAt (round + size)) state
          else
            let round := optional + (state - optional) / (1 + size) * (1 + size)
            if state = round then .again greedy (round + 1) exit
            else body.node (round + 1) (exitAt (round + 1 + size)) state

end Regex

end TagOrganizer
