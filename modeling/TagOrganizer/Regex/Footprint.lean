import Std.Data.HashMap
import TagOrganizer.Regex.Shape
import TagOrganizer.Text.ByteRanges

/-!
# How large an expression is

An expression may take no more than a certain room when it is unfolded into an automaton that reads
the bytes of a text, forward or backward. Repetitions are written out, and a set of characters
becomes states for the bytes of its characters, which share what they have in common as far as a
table of limited size remembers it.
-/

namespace TagOrganizer

namespace Regex

/-- The room that an automaton takes while it is unfolded. -/
structure Footprint where
  states : Nat
  bytes : Nat

/-- An unfolding, which fails if the automaton takes too much room. -/
abbrev Unfolding := StateT Footprint Option

namespace Unfolding

/-- How much room an automaton may take. -/
def mostBytes : Nat := 10 * Nat.pow 2 20

/-- Takes room for states and for what goes with them. -/
def grow (states extra : Nat) : Unfolding Unit := do
  let footprint ← get
  let bytes := footprint.bytes + 32 * states + extra
  if mostBytes < bytes then failure
  set (⟨footprint.states + states, bytes⟩ : Footprint)

/-- Adds a state with its number of arcs, each of which reads bytes of a range. -/
def addState (arcs : Nat) : Unfolding Nat := do
  let number := (← get).states
  grow 1 (8 * arcs)
  return number

/-- Adds ways out of states that have any number of them. -/
def addWays (count : Nat) : Unfolding Unit :=
  grow 0 (4 * count)

/-- Goes on from a part, which takes a way if the part ends in a state with many ways. -/
def goOn (manyWays : Bool) : Unfolding Unit :=
  if manyWays then addWays 1 else return ()

/-- Repeats an unfolding; gives whether the last one ends in a state with many ways. -/
def times (part : Unfolding Bool) : (count : Nat) → Unfolding Bool
  | 0 => do
      let _ ← addState 0
      return false
  | 1 => part
  | count + 2 => do
      goOn (← part)
      times part (count + 1)

end Unfolding

open Unfolding

/-- An arc of a state: the bytes that it reads and the state that it leads to. -/
structure Arc where
  low : Nat
  high : Nat
  next : Nat
  deriving DecidableEq

/-- Mixes a number into a hash value. -/
def mixHash (hash : UInt64) (value : Nat) : UInt64 :=
  (hash ^^^ value.toUInt64) * 1099511628211

/-- The hash value that all others begin with. -/
def hashStart : UInt64 := 14695981039346656037

/-- The hash value of arcs. -/
def hashArcs (arcs : List Arc) : UInt64 :=
  arcs.foldl (fun hash arc => mixHash (mixHash (mixHash hash arc.low) arc.high) arc.next) hashStart

/-- States that can be shared, by the slot of a table that they are in. -/
abbrev Shared := Std.HashMap Nat (List Arc × Nat)

/-- A state with the given arcs, a shared one if the table remembers it. -/
def shareArcs (arcs : List Arc) : StateT Shared Unfolding Nat := do
  let slot := (hashArcs arcs).toNat % 10000
  match (← get)[slot]? with
  | some (known, state) => if known = arcs then return state
  | none => pure ()
  let state ← addState arcs.length
  modify fun shared => shared.insert slot (arcs, state)
  return state

/-- The state that reads some sequences of ranges, at most `room` bytes long, up to `last`. -/
def shareSequences (last : Nat) :
    (room : Nat) → (sequences : List (List (Nat × Nat))) → StateT Shared Unfolding Nat
  | 0, _ => return last
  | room + 1, sequences => do
      let arcs ← (sequences.splitBy fun left right => left.head? == right.head?).mapM
        fun together => do
          let first := ((together.headD []).headD (0, 0))
          let rests := (together.map (List.drop 1)).filter fun rest => !rest.isEmpty
          let next ← if rests.isEmpty then pure last else shareSequences last room rests
          return (⟨first.1, first.2, next⟩ : Arc)
      shareArcs arcs

/-- The state before `next` that reads a byte of a range, a shared one if the table remembers it. -/
def sharePrevious (next : Nat) (range : Nat × Nat) : StateT Shared Unfolding Nat := do
  let arc : Arc := ⟨range.1, range.2, next⟩
  let slot :=
    (mixHash (mixHash (mixHash hashStart next) range.1) range.2).toNat % 1000
  match (← get)[slot]? with
  | some (known, state) => if known = [arc] then return state
  | none => pure ()
  let state ← addState 0
  modify fun shared => shared.insert slot ([arc], state)
  return state

/-- The characters of a set as sequences of ranges of bytes. -/
def CharSet.sequences (set : CharSet) : List (List (Nat × Nat)) :=
  set.ranges.flatMap fun range => Text.byteSequences range.1 range.2

/-- Whether all characters of a set are plain ones. -/
def CharSet.isPlain (set : CharSet) : Bool :=
  set.ranges.all fun range => range.2 < 0x80

/-- Unfolds one character of a set. -/
def unfoldSet (backward : Bool) (set : CharSet) : Unfolding Unit := do
  match set.only? with
  | some char => grow (Text.bytesOf char.toNat).length 0
  | none =>
      if set.isPlain then do
        let _ ← addState 0
        let _ ← addState set.ranges.length
      else if backward then do
        let _ ← addState 0
        let last ← addState 0
        let sequences := set.sequences
        let _ ← (sequences.forM fun sequence => do
          let _ ← sequence.foldlM sharePrevious last
          (addWays 1 : Unfolding Unit)).run ∅
      else do
        let last ← addState 0
        let _ ← (shareSequences last 4 set.sequences).run ∅

/-- Splits words after each of those that end here. -/
def chunks : (words : List (List Nat)) → List (List (List Nat))
  | [] => [[]]
  | [] :: words => [] :: chunks words
  | word :: words =>
      match chunks words with
      | [] => [[word]]
      | chunk :: others => (word :: chunk) :: others

/-- The words of a chunk by their first byte, without it. -/
def byFirst (words : List (List Nat)) : List (Nat × List (List Nat)) :=
  (words.filterMap List.head?).eraseDups.map fun byte =>
    (byte, words.filterMap fun word =>
      match word with
      | [] => none
      | first :: rest => if first = byte then some rest else none)

/-- Unfolds a choice between words, at most `room` bytes long, that share their beginnings. -/
def unfoldWords : (room : Nat) → (words : List (List Nat)) → Unfolding Unit
  | 0, _ => return ()
  | room + 1, words => do
      let ended := words.takeWhile List.isEmpty
      let parts := chunks (ended.take 1 ++ words.drop ended.length)
      let counts ← parts.mapM fun part => do
        let followers := byFirst part
        followers.forM fun follower =>
          if follower.2.all List.isEmpty then pure () else unfoldWords room follower.2
        if followers.isEmpty then pure 0
        else
          let _ ← addState (if followers.length = 1 then 0 else followers.length)
          pure 1
      let _ ← addState 0
      addWays (counts.foldl (· + ·) (parts.length - 1))

/-- The bytes of the only text that an expression matches, if it is a sequence of characters. -/
def word? (regex : Regex) : Option (List Nat) :=
  let chars := regex.factors.filterMap onlyChar?
  if chars.isEmpty || chars.length != regex.factors.length then none
  else some (chars.flatMap fun char => Text.bytesOf char.toNat)

/-- Unfolds parts one after the other, and gives whether the last one has many ways out. -/
def unfoldAll (unfold : Regex → Unfolding Bool) : (parts : List Regex) → Unfolding Bool
  | [] => do
      let _ ← addState 0
      return false
  | [part] => unfold part
  | part :: parts => do
      goOn (← unfold part)
      unfoldAll unfold parts

/-- Unfolds alternatives. -/
def unfoldChoice (unfold : Regex → Unfolding Bool) (alternatives : List Regex) :
    Unfolding Unit := do
  let firsts ← (alternatives.take 2).mapM unfold
  let _ ← addState 0
  let _ ← addState 0
  firsts.forM fun manyWays => do
    addWays 1
    goOn manyWays
  (alternatives.drop 2).forM fun alternative => do
    let manyWays ← unfold alternative
    addWays 1
    goOn manyWays

/-- Unfolds a repetition, and gives whether it ends in a state with many ways. -/
def unfoldRepetition (part : Unfolding Bool) (neverEmpty : Bool) (least : Nat)
    (most : Option Nat) : Unfolding Bool := do
  match least, most with
  | 0, none =>
      if neverEmpty then
        let _ ← addState 0
        goOn (← part)
        addWays 1
        return true
      else
        goOn (← part)
        let _ ← addState 0
        let _ ← addState 0
        let _ ← addState 0
        addWays 4
        return false
  | least + 1, none =>
      if least ≠ 0 then goOn (← times part least)
      goOn (← part)
      let _ ← addState 0
      addWays 1
      return true
  | 0, some 1 =>
      let _ ← addState 0
      let manyWays ← part
      let _ ← addState 0
      addWays 2
      goOn manyWays
      return false
  | least, some most =>
      let required ← times part least
      if most ≤ least then return required
      let _ ← addState 0
      goOn required
      let optional : Unfolding Bool := do
        let _ ← addState 0
        let manyWays ← part
        addWays 2
        return manyWays
      goOn (← times optional (most - least))
      return false

/--
Unfolds an expression with at most `room` levels, and gives whether it ends in a state with many
ways.
-/
def unfoldWithin (backward : Bool) : (room : Nat) → Regex → Unfolding Bool
  | 0, _ => failure
  | room + 1, regex => do
      let unfold := unfoldWithin backward room
      match regex with
      | .empty => do
          let _ ← addState 0
          return false
      | .look _ => do
          let _ ← addState 0
          return false
      | .one set => do
          unfoldSet backward set
          return false
      | .concat _ _ =>
          let parts := regex.factors
          unfoldAll unfold (if backward then parts.reverse else parts)
      | .alternate _ _ => do
          let alternatives := regex.branches
          let words := alternatives.filterMap word?
          if words.length = alternatives.length then
            let words := if backward then words.map List.reverse else words
            let _ ← addState 0
            unfoldWords ((words.map List.length).foldl max 0) words
          else unfoldChoice unfold alternatives
          return false
      | .repetition body least most _ =>
          unfoldRepetition (unfold body) body.neverEmpty least most
      | .group _ _ body =>
          if backward then unfold body
          else do
            let _ ← addState 0
            let manyWays ← unfold body
            let _ ← addState 0
            goOn manyWays
            return false

/-- Whether an expression matches only at the beginning of a text. -/
def isAnchoredStart : Regex → Bool
  | look condition => condition == .textStart
  | concat first second => first.isAnchoredStart || (first.onlyEmpty && second.isAnchoredStart)
  | alternate first second => first.isAnchoredStart && second.isAnchoredStart
  | repetition body least _ _ => least != 0 && body.isAnchoredStart
  | group _ _ body => body.isAnchoredStart
  | _ => false

/-- Whether an expression matches only up to the end of a text. -/
def isAnchoredEnd : Regex → Bool
  | look condition => condition == .textEnd
  | concat first second => second.isAnchoredEnd || (second.onlyEmpty && first.isAnchoredEnd)
  | alternate first second => first.isAnchoredEnd && second.isAnchoredEnd
  | repetition body least _ _ => least != 0 && body.isAnchoredEnd
  | group _ _ body => body.isAnchoredEnd
  | _ => false

/-- Unfolds an expression, before which any bytes may be read unless it is anchored. -/
def unfold (backward : Bool) (regex : Regex) : Unfolding Unit := do
  let anchored := if backward then regex.isAnchoredEnd else regex.isAnchoredStart
  if anchored then grow 1 0
  else
    grow 3 8
    addWays 2
  unless backward do grow 1 0
  let manyWays ← unfoldWithin backward regex.nodes regex
  unless backward do grow 1 0
  goOn manyWays
  grow 1 0

/-- Whether an expression takes no more room than it may. -/
def isSmall (regex : Regex) : Bool :=
  ((unfold false regex).run ⟨0, 0⟩).isSome && ((unfold true regex).run ⟨0, 0⟩).isSome

end Regex

end TagOrganizer
