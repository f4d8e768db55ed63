import TagOrganizer.Renaming.Ledger

/-!
# Looking up names in ledgers

A ledger is looked up by the components of the destination and by the name. Adding or counting a
name changes what is found for that name in that destination and nothing else.
-/

namespace TagOrganizer

namespace Path

theorem sameAs_iff {path other : Path} :
    path.sameAs other = true ↔ path.components = other.components := by
  simp [sameAs]

theorem sameAs_comm (path other : Path) : path.sameAs other = other.sameAs path := by
  rw [Bool.eq_iff_iff, sameAs_iff, sameAs_iff]
  exact eq_comm

theorem sameAs_congr_left {path other : Path} (same : path.sameAs other = true) (third : Path) :
    path.sameAs third = other.sameAs third := by
  rw [sameAs_iff] at same
  simp only [sameAs, same]

end Path

namespace Ledger

variable (ledger : Ledger) (destination other : Path) (name otherName : String)

/-- Destinations with the same components are looked up alike. -/
theorem find?_congr {destination other : Path} (same : destination.sameAs other = true)
    (name : String) : ledger.find? destination name = ledger.find? other name := by
  unfold find?
  congr 1
  funext produced
  rw [ProducedName.isFor, ProducedName.isFor, Path.sameAs_comm, Path.sameAs_congr_left same,
    Path.sameAs_comm]

theorem find?_addFirst (first : Path) :
    (ledger.addFirst destination name first).find? other otherName =
      if destination.sameAs other = true ∧ name = otherName then
        some ⟨destination, name, 1, first⟩
      else ledger.find? other otherName := by
  simp only [find?, addFirst, List.find?_cons, ProducedName.isFor]
  by_cases same : destination.sameAs other = true ∧ name = otherName
  · simp [same]
  · rw [if_neg same]
    have different : (destination.sameAs other && name == otherName) = false := by
      simpa [← Bool.not_eq_true] using same
    rw [different]

theorem find?_count :
    (ledger.count destination name).find? other otherName =
      (ledger.find? other otherName).map fun produced =>
        if destination.sameAs other = true ∧ name = otherName then
          { produced with occurrences := produced.occurrences + 1 }
        else produced := by
  simp only [find?, count, List.find?_map]
  have unchanged : ((fun produced : ProducedName => produced.isFor other otherName) ∘
      fun produced : ProducedName => if produced.isFor destination name then
        { produced with occurrences := produced.occurrences + 1 } else produced) =
      fun produced => produced.isFor other otherName := by
    funext produced
    simp only [Function.comp]
    split <;> rfl
  rw [unchanged]
  cases found : ledger.entries.find? fun produced => produced.isFor other otherName with
  | none => rfl
  | some produced =>
      have isFor := List.find?_some found
      simp only [ProducedName.isFor, Bool.and_eq_true, beq_iff_eq] at isFor
      rcases isFor with ⟨same, rfl⟩
      have swapped : produced.isFor destination name = true ↔
          destination.sameAs other = true ∧ name = produced.name := by
        rw [ProducedName.isFor, Path.sameAs_congr_left same, Path.sameAs_comm, Bool.and_eq_true,
          beq_iff_eq]
        exact and_congr_right' eq_comm
      simp only [Option.map_some, swapped]

end Ledger

end TagOrganizer
