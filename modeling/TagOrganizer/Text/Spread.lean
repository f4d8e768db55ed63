/-!
# Spreads of codes

A set of codes given by its bounds: the codes, in ascending order, at which one enters or leaves the
set when counting up from zero. Sets are combined bound by bound.
-/

namespace TagOrganizer

namespace Text

/-- Whether `code` is in the set, given whether the codes before the first bound are. -/
def spreadHoldsFrom (inside : Bool) : (bounds : List Nat) → (code : Nat) → Bool
  | [], _ => inside
  | bound :: bounds, code =>
      if code < bound then inside else spreadHoldsFrom (!inside) bounds code

/-- Whether `code` is in the set with the given bounds. -/
def spreadHolds (bounds : List Nat) (code : Nat) : Bool :=
  spreadHoldsFrom false bounds code

/-- Keeps a bound at which membership changes from `before` to `after`. -/
def keepBound (before after : Bool) (bound : Nat) (bounds : List Nat) : List Nat :=
  if before == after then bounds else bound :: bounds

/--
The bounds of a combination up to `left`, at which one enters or leaves the first set, and those
that `next` finds after it.
-/
def combineUpTo (join : Bool → Bool → Bool) (inLeft : Bool) (left : Nat)
    (next : Bool → List Nat → List Nat) : (inRight : Bool) → (rights : List Nat) → List Nat
  | inRight, [] =>
      keepBound (join inLeft inRight) (join (!inLeft) inRight) left (next inRight [])
  | inRight, right :: rights =>
      if right < left then
        keepBound (join inLeft inRight) (join inLeft (!inRight)) right
          (combineUpTo join inLeft left next (!inRight) rights)
      else if left < right then
        keepBound (join inLeft inRight) (join (!inLeft) inRight) left
          (next inRight (right :: rights))
      else
        keepBound (join inLeft inRight) (join (!inLeft) (!inRight)) left (next (!inRight) rights)

/-- The bounds of a combination after the last bound of the first set. -/
def combineRest (join : Bool → Bool → Bool) (inLeft : Bool) :
    (inRight : Bool) → (rights : List Nat) → List Nat
  | _, [] => []
  | inRight, right :: rights =>
      keepBound (join inLeft inRight) (join inLeft (!inRight)) right
        (combineRest join inLeft (!inRight) rights)

/-- The bounds of a combination, given whether the codes before the first bounds are in the sets. -/
def combineFrom (join : Bool → Bool → Bool) :
    (inLeft : Bool) → (lefts : List Nat) → (inRight : Bool) → (rights : List Nat) → List Nat
  | inLeft, [] => combineRest join inLeft
  | inLeft, left :: lefts => combineUpTo join inLeft left (combineFrom join (!inLeft) lefts)

/-- The bounds of the codes for which `join` holds of being in the one and in the other set. -/
def combine (join : Bool → Bool → Bool) (lefts rights : List Nat) : List Nat :=
  combineFrom join false lefts false rights

end Text

end TagOrganizer
