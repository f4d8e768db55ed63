import Mathlib
import TagOrganizer.Version

/-!
# The order of versions

Versions are compared like the lists of their components, with zeros written behind the shorter
list (`compareComponents_eq`). However many zeros there are, the result is the same; so any number
of versions can be brought to one length, and all laws of the order of lists hold of versions
(`isPaddedOrder_compare`). What is lost is that versions that compare as equal are equal: they may
differ in zeros at their end.
-/

namespace TagOrganizer

namespace Version

variable {left right third : Version}

/-- The components of a version with zeros behind them, as many as another version calls for. -/
def paddedTo (version other : Version) : List Nat :=
  version.components.rightpad (max version.components.length other.components.length) 0

/-- What makes a comparison an order on versions, up to zeros at their end. -/
structure IsPaddedOrder (compare : Version → Version → Ordering)
    (same : Version → Version → Bool) : Prop where
  /-- The comparison is that of lists of numbers, the first difference deciding. -/
  lexicographic : ∀ left right, compare left right =
    Ord.compare (left.paddedTo right) (right.paddedTo left)
  refl : ∀ version, compare version version = .eq
  swap : ∀ left right, compare left right = (compare right left).swap
  trans : ∀ left right third, compare left right ≠ .gt → compare right third ≠ .gt →
    compare left third ≠ .gt
  total : ∀ left right, compare left right ≠ .gt ∨ compare right left ≠ .gt
  antisymm : ∀ left right, compare left right ≠ .gt → compare right left ≠ .gt →
    left.paddedTo right = right.paddedTo left
  same_iff : ∀ left right, same left right = true ↔ compare left right = .eq
  /-- Versions that are the same cannot be told apart by comparing them with a third one. -/
  congr : ∀ left right, same left right = true → ∀ third,
    compare left third = compare right third ∧ compare third left = compare third right

/-! ### Comparing with zeros behind the components -/

theorem rightpad_cons (component : Nat) (components : List Nat) (length : Nat) :
    (component :: components).rightpad (length + 1) 0 =
      component :: components.rightpad length 0 := by
  simp [List.rightpad]

theorem rightpad_nil (length : Nat) :
    ([] : List Nat).rightpad (length + 1) 0 = 0 :: ([] : List Nat).rightpad length 0 := by
  simp [List.rightpad, List.replicate_succ]

theorem compareComponents_eq {left right : List Nat} {length : Nat}
    (leftFits : left.length ≤ length) (rightFits : right.length ≤ length) :
    compareComponents left right =
      Ord.compare (left.rightpad length 0) (right.rightpad length 0) := by
  fun_induction compareComponents left right generalizing length with
  | case1 => exact Std.compare_self.symm
  | case2 component right ih =>
      rcases Nat.exists_eq_add_one_of_ne_zero (Nat.ne_zero_of_lt rightFits) with ⟨length, rfl⟩
      rw [rightpad_nil, rightpad_cons, List.compare_cons_cons]
      rw [ih (Nat.zero_le _) (Nat.le_of_succ_le_succ rightFits)]
  | case3 component left ih =>
      rcases Nat.exists_eq_add_one_of_ne_zero (Nat.ne_zero_of_lt leftFits) with ⟨length, rfl⟩
      rw [rightpad_nil, rightpad_cons, List.compare_cons_cons]
      rw [ih (Nat.le_of_succ_le_succ leftFits) (Nat.zero_le _)]
  | case4 component left other right ih =>
      rcases Nat.exists_eq_add_one_of_ne_zero (Nat.ne_zero_of_lt leftFits) with ⟨length, rfl⟩
      rw [rightpad_cons, rightpad_cons, List.compare_cons_cons]
      rw [ih (Nat.le_of_succ_le_succ leftFits) (Nat.le_of_succ_le_succ rightFits)]

theorem compare_eq (left right : Version) :
    left.compare right = Ord.compare (left.paddedTo right) (right.paddedTo left) := by
  rw [compare, compareComponents_eq (Nat.le_max_left _ right.components.length)
    (Nat.le_max_right _ _), paddedTo, paddedTo, Nat.max_comm right.components.length]

/-- Three versions can be brought to one length. -/
theorem exists_rightpad (left right third : Version) :
    ∃ components : Version → List Nat,
      ∀ first ∈ [left, right, third], ∀ second ∈ [left, right, third],
        first.compare second = Ord.compare (components first) (components second) := by
  let length := left.components.length + right.components.length + third.components.length
  have fits : ∀ version ∈ [left, right, third], version.components.length ≤ length := by
    simp only [List.mem_cons, List.not_mem_nil, or_false]
    rintro version (rfl | rfl | rfl) <;> omega
  exact ⟨fun version => version.components.rightpad length 0, fun first isFirst second isSecond =>
    compareComponents_eq (fits first isFirst) (fits second isSecond)⟩

/-! ### The laws of the order -/

theorem compare_swap (left right : Version) :
    left.compare right = (right.compare left).swap := by
  rw [compare_eq left, compare_eq right]
  exact Std.OrientedCmp.eq_swap

theorem compare_trans (smaller : left.compare right ≠ .gt) (larger : right.compare third ≠ .gt) :
    left.compare third ≠ .gt := by
  rcases exists_rightpad left right third with ⟨components, padded⟩
  rw [padded left (by simp) right (by simp)] at smaller
  rw [padded right (by simp) third (by simp)] at larger
  rw [padded left (by simp) third (by simp)]
  exact Std.TransCmp.le_trans smaller larger

theorem compare_eq_eq_iff (left right : Version) :
    left.compare right = .eq ↔ left.paddedTo right = right.paddedTo left := by
  rw [compare_eq]
  exact Std.LawfulEqCmp.compare_eq_iff_eq

theorem compare_congr_left (same : left.compare right = .eq) (third : Version) :
    left.compare third = right.compare third := by
  rcases exists_rightpad left right third with ⟨components, padded⟩
  rw [padded left (by simp) right (by simp), Std.LawfulEqCmp.compare_eq_iff_eq] at same
  rw [padded left (by simp) third (by simp), padded right (by simp) third (by simp), same]

theorem sameAs_iff_compare (left right : Version) :
    left.sameAs right = true ↔ left.compare right = .eq :=
  decide_eq_true_iff

theorem isPaddedOrder_compare : IsPaddedOrder compare sameAs where
  lexicographic := compare_eq
  refl := by
    intro version
    rw [compare_eq]
    exact Std.compare_self
  swap := compare_swap
  trans := fun _ _ _ => compare_trans
  total := by
    intro left right
    rw [compare_swap right left]
    cases left.compare right <;> simp
  antisymm := by
    intro left right smaller larger
    rw [← compare_eq_eq_iff]
    rw [compare_swap right left] at larger
    cases equal : left.compare right with
    | lt => simp [equal] at larger
    | eq => rfl
    | gt => exact absurd equal smaller
  same_iff := sameAs_iff_compare
  congr := by
    intro left right same third
    have equal := compare_congr_left ((sameAs_iff_compare left right).1 same) third
    refine ⟨equal, ?_⟩
    rw [compare_swap third left, compare_swap third right, equal]

theorem isWithin_iff (version oldest newest : Version) :
    version.isWithin oldest newest = true ↔
      oldest.compare version ≠ .gt ∧ version.compare newest ≠ .gt := by
  rw [isWithin, compare_swap version oldest]
  cases oldest.compare version <;> simp

end Version

end TagOrganizer
