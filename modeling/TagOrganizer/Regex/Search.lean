import TagOrganizer.Regex.Automaton
import Std.Data.HashSet

/-!
# Searching with regular expressions

A text is searched from left to right by threads, each of which is in a state of the automaton. At
every place the threads stand in the order of preference, and only the best thread in a state is
kept. The leftmost match counts, and there the preferred one.
-/

namespace TagOrganizer

namespace Regex

/-- A way through a part of a text. -/
structure Thread where
  state : Nat
  /-- Where it begins. -/
  start : Place
  /-- Where the named groups have been entered for the last time. -/
  entered : List (String × Place)
  /-- From where to where the named groups have matched for the last time. -/
  captured : List (String × Place × Place)

namespace Thread

/-- A thread that goes on in another state. -/
def goTo (thread : Thread) (state : Nat) : Thread :=
  { thread with state := state }

/-- A thread that enters a group. -/
def enter (thread : Thread) (name : Option String) (place : Place) : Thread :=
  match name with
  | none => thread
  | some name =>
      let others := thread.entered.filter fun entry => entry.1 != name
      { thread with entered := (name, place) :: others }

/-- A thread that leaves a group. -/
def leave (thread : Thread) (name : Option String) (place : Place) : Thread :=
  match name with
  | none => thread
  | some name =>
      match thread.entered.lookup name with
      | none => thread
      | some entry =>
          let others := thread.captured.filter fun capture => capture.1 != name
          { thread with captured := (name, entry, place) :: others }

end Thread

/-- A match: where it begins, where it ends, and from where to where each named group goes. -/
structure Match where
  start : Place
  stop : Place
  captured : List (String × Place × Place)

/-- What a match captures under each name. -/
def Match.captures (found : Match) : List (String × String) :=
  found.captured.map fun capture => (capture.1, String.ofList (capture.2.1.upTo capture.2.2))

/-- What a thread does when it can go on at a place no further. -/
inductive Stand where
  /-- It waits for a character of a set. -/
  | waiting (set : CharSet) (thread : Thread)
  /-- It has come through the whole expression. -/
  | through (thread : Thread)

/-- An expression that is searched for, and the state behind its own, which is the end. -/
structure Finder where
  regex : Regex
  final : Nat

namespace Finder

/-- A finder for an expression. -/
def ofRegex (regex : Regex) : Finder :=
  ⟨regex, regex.stateCount⟩

/--
Lets the threads `pending` go on at a place as far as they can, the preferred ones first, in at most
`room` steps. A thread that comes to a state which one before it has come to is dropped.
-/
def settle (finder : Finder) (place : Place) :
    (room : Nat) → (pending : List Thread) → (seen : Std.HashSet Nat) → List Stand
  | 0, _, _ => []
  | _, [], _ => []
  | room + 1, thread :: pending, seen =>
      if seen.contains thread.state then finder.settle place room pending seen
      else
        let seen := seen.insert thread.state
        if thread.state = finder.final then
          .through thread :: finder.settle place room pending seen
        else
          match finder.regex.node 0 finder.final thread.state with
          | .read set next =>
              .waiting set (thread.goTo next) :: finder.settle place room pending seen
          | .check condition next =>
              let further := if condition.holds place then [thread.goTo next] else []
              finder.settle place room (further ++ pending) seen
          | .fork first second =>
              finder.settle place room (thread.goTo first :: thread.goTo second :: pending) seen
          | .enter name next =>
              finder.settle place room ((thread.enter name place).goTo next :: pending) seen
          | .leave name next =>
              finder.settle place room ((thread.leave name place).goTo next :: pending) seen
          | .jump next => finder.settle place room (thread.goTo next :: pending) seen

/-- The threads that read a character. -/
def reading (char : Char) (stands : List Stand) : List Thread :=
  stands.filterMap fun stand =>
    match stand with
    | .waiting set thread => if set.has char then some thread else none
    | .through _ => none

/-- Whether a thread has come through, and which one is the first. -/
def firstThrough (stands : List Stand) : Option Thread :=
  stands.findSome? fun stand =>
    match stand with
    | .waiting _ _ => none
    | .through thread => some thread

/-- The threads that are preferred to every one that has come through. -/
def preferred (stands : List Stand) : List Stand :=
  stands.takeWhile fun stand =>
    match stand with
    | .waiting _ _ => true
    | .through _ => false

/--
Where the threads `pending` stand at a place. As long as no match has been found, one may also begin
there.
-/
def stands (finder : Finder) (found : Option Match) (pending : List Thread) (place : Place) :
    List Stand :=
  let beginning : List Thread := if found.isSome then [] else [⟨0, place, [], []⟩]
  finder.settle place (2 * finder.final + pending.length + 4) (pending ++ beginning) ∅

/-- The best match after the threads have come to stand at a place. -/
def update (found : Option Match) (stands : List Stand) (place : Place) : Option Match :=
  match firstThrough stands with
  | some thread => some ⟨thread.start, place, thread.captured⟩
  | none => found

/--
Goes on from a place, where `found` is the best match so far and `pending` are the threads that are
preferred to it.
-/
def run (finder : Finder) (found : Option Match) (pending : List Thread)
    (position : Nat) (previous : Option Char) : (rest : List Char) → Option Match
  | [] =>
      let place : Place := ⟨position, previous, []⟩
      update found (finder.stands found pending place) place
  | char :: rest =>
      let place : Place := ⟨position, previous, char :: rest⟩
      let stands := finder.stands found pending place
      let found := update found stands place
      let pending := reading char (preferred stands)
      if found.isSome && pending.isEmpty then found
      else finder.run found pending (position + 1) (some char) rest

/-- Looks for a match from a place on. -/
def findFrom (finder : Finder) (place : Place) : Option Match :=
  finder.run none [] place.position place.previous place.rest

/--
Looks for the next match after a place at which the last match ended, if there was one. An empty
match right there does not count.
-/
def findNext (finder : Finder) (ended : Bool) (place : Place) : Option Match :=
  match finder.findFrom place with
  | none => none
  | some found =>
      if ended && found.stop.position == place.position then
        (place.next?).bind finder.findFrom
      else some found

/-- The pieces of a text between the matches, from a place on. `room` bounds their number. -/
def piecesFrom (finder : Finder) : (room : Nat) → (ended : Bool) → (place : Place) → List String
  | 0, _, place => [String.ofList place.rest]
  | room + 1, ended, place =>
      match finder.findNext ended place with
      | none => [String.ofList place.rest]
      | some found =>
          String.ofList (place.upTo found.start) :: finder.piecesFrom room true found.stop

end Finder

/-- Looks for a match in a text. -/
def find? (regex : Regex) (text : String) : Option Match :=
  (Finder.ofRegex regex).findFrom (Place.start text.toList)

/-- Whether an expression matches somewhere in a text. -/
def isMatch (regex : Regex) (text : String) : Bool :=
  (regex.find? text).isSome

/-- The pieces of a text between the matches of an expression. -/
def split (regex : Regex) (text : String) : List String :=
  (Finder.ofRegex regex).piecesFrom (2 * text.length + 2) false (Place.start text.toList)

end Regex

end TagOrganizer
