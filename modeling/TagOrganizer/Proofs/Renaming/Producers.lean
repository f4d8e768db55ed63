import TagOrganizer.Proofs.Renaming.Batch
import TagOrganizer.Proofs.Renaming.Ledger

/-!
# Producers of names

The files of several batches that produce a name in a destination, and ledgers that record them: a
ledger holds for each name how many files have produced it and where the first of them was found.
-/

namespace TagOrganizer

/-- A file and the batch that it is in. -/
abbrev Entry := Batch × TaggedFile

/-- The files of some batches in their order. -/
def entries (batches : List Batch) : List Entry :=
  batches.flatMap fun batch => batch.files.map (Prod.mk batch)

/-- The files that produce a name in a destination. -/
def producers (destination : Path) (name : String) (entries : List Entry) : List Entry :=
  entries.filter fun entry => entry.1.produces destination name entry.2

/-- Files of which none is found twice, and of which those of one name have one format. -/
structure Regular (entries : List Entry) : Prop where
  distinct : entries.Pairwise fun left right => left.2.location.sameAs right.2.location = false
  uniform : ∀ left ∈ entries, ∀ right ∈ entries, ∀ format other name,
    left.1.product? left.2 = some (format, name) →
    right.1.product? right.2 = some (other, name) →
    left.2.destination.sameAs right.2.destination = true → format = other

/-! ### Producers -/

section Producers

variable {batch : Batch} {file : TaggedFile} {format name : String}

theorem Batch.produces_iff (product : batch.product? file = some (format, name))
    {destination : Path} {other : String} :
    batch.produces destination other file = true ↔
      file.destination.sameAs destination = true ∧ name = other := by
  simp [produces, product]

theorem Batch.produces_self (product : batch.product? file = some (format, name)) :
    batch.produces file.destination name file = true := by
  simp [produces, product, Path.sameAs]

/-- A file that produces a name in a destination goes there. -/
theorem Batch.exists_product?_of_produces {destination : Path}
    (produced : batch.produces destination name file = true) :
    ∃ own, batch.product? file = some (own, name) ∧
      file.destination.sameAs destination = true := by
  unfold produces at produced
  split at produced
  · rename_i own plain product
    simp only [Bool.and_eq_true, beq_iff_eq] at produced
    rcases produced with ⟨same, rfl⟩
    exact ⟨own, product, same⟩
  · cases produced

theorem Batch.produces_of_none (nothing : batch.product? file = none) (destination : Path)
    (other : String) : batch.produces destination other file = false := by
  simp [produces, nothing]

theorem Batch.produces_congr {destination other : Path}
    (same : destination.sameAs other = true) (name : String) (file : TaggedFile) :
    batch.produces destination name file = batch.produces other name file := by
  unfold produces
  rw [Path.sameAs_comm] at same
  split
  · rw [Path.sameAs_comm, ← Path.sameAs_congr_left same, Path.sameAs_comm]
  · rfl

theorem producers_congr {destination other : Path} (same : destination.sameAs other = true)
    (name : String) (entries : List Entry) :
    producers destination name entries = producers other name entries := by
  unfold producers
  congr 1
  funext entry
  exact Batch.produces_congr same name entry.2

theorem producers_append (destination : Path) (name : String) (front back : List Entry) :
    producers destination name (front ++ back) =
      producers destination name front ++ producers destination name back :=
  List.filter_append front back

theorem producers_cons (destination : Path) (name : String) (entry : Entry)
    (entries : List Entry) :
    producers destination name (entry :: entries) =
      if entry.1.produces destination name entry.2 = true then
        entry :: producers destination name entries
      else producers destination name entries :=
  List.filter_cons

theorem producers_singleton (destination : Path) (name : String) (entry : Entry) :
    producers destination name [entry] =
      if entry.1.produces destination name entry.2 = true then [entry] else [] := by
  rw [producers, List.filter_cons, List.filter_nil]

end Producers

/-! ### The ledger records producers -/

/-- Whether a ledger holds the number of producers of each name and where the first was found. -/
def Ledger.Records (ledger : Ledger) (entries : List Entry) : Prop :=
  ∀ destination name, (ledger.find? destination name).map (fun produced =>
      (produced.occurrences, produced.first)) =
    (producers destination name entries).head?.map fun first =>
      ((producers destination name entries).length, first.2.location)

namespace Ledger.Records

variable {ledger : Ledger} {entries : List Entry} {batch : Batch} {file : TaggedFile}
  {format name : String}

theorem occurrences_eq (records : ledger.Records entries) (destination : Path) (name : String) :
    ledger.occurrences destination name = (producers destination name entries).length := by
  have found := records destination name
  unfold Ledger.occurrences
  cases listed : producers destination name entries with
  | nil =>
      rw [listed] at found
      rw [Option.map_eq_none_iff.1 found]
      rfl
  | cons first others =>
      rw [listed] at found
      rcases Option.map_eq_some_iff.1 found with ⟨produced, looked, counted⟩
      rw [looked]
      exact (Prod.mk.inj counted).1

theorem unproduced (records : ledger.Records entries) (nothing : batch.product? file = none) :
    ledger.Records (entries ++ [(batch, file)]) := by
  intro destination name
  rw [producers_append, producers_singleton, Batch.produces_of_none nothing,
    if_neg Bool.false_ne_true, List.append_nil]
  exact records destination name

theorem producers_eq_nil (records : ledger.Records entries) {destination : Path}
    (fresh : ledger.find? destination name = none) : producers destination name entries = [] := by
  have found := records destination name
  rw [fresh, Option.map_none] at found
  exact List.head?_eq_none_iff.1 (Option.map_eq_none_iff.1 found.symm)

/-- The entry of a name that has been produced counts its producers, of which there is a first. -/
theorem producers_eq_cons (records : ledger.Records entries) {destination : Path}
    {produced : ProducedName} (found : ledger.find? destination name = some produced) :
    ∃ first others, producers destination name entries = first :: others ∧
      produced.occurrences = others.length + 1 ∧ produced.first = first.2.location := by
  have recorded := records destination name
  rw [found] at recorded
  cases listed : producers destination name entries with
  | nil =>
      rw [listed] at recorded
      cases recorded
  | cons first others =>
      rw [listed] at recorded
      simp only [Option.map_some, List.head?_cons, Option.some.injEq, Prod.mk.injEq,
        List.length_cons] at recorded
      exact ⟨first, others, rfl, recorded⟩

theorem addFirst (records : ledger.Records entries)
    (product : batch.product? file = some (format, name))
    (fresh : ledger.find? file.destination name = none) :
    (ledger.addFirst file.destination name file.location).Records
      (entries ++ [(batch, file)]) := by
  intro destination other
  rw [find?_addFirst, producers_append, producers_singleton]
  by_cases same : file.destination.sameAs destination = true ∧ name = other
  · rw [if_pos same, if_pos ((Batch.produces_iff product).2 same)]
    rcases same with ⟨same, rfl⟩
    rw [← producers_congr same, records.producers_eq_nil fresh]
    rfl
  · rw [if_neg same, if_neg (mt (Batch.produces_iff product).1 same), List.append_nil]
    exact records destination other

theorem count (records : ledger.Records entries)
    (product : batch.product? file = some (format, name)) {produced : ProducedName}
    (found : ledger.find? file.destination name = some produced) :
    (ledger.count file.destination name).Records (entries ++ [(batch, file)]) := by
  intro destination other
  have counted := records destination other
  rw [find?_count, producers_append, producers_singleton, Option.map_map]
  by_cases same : file.destination.sameAs destination = true ∧ name = other
  · rw [if_pos ((Batch.produces_iff product).2 same)]
    rcases same with ⟨same, rfl⟩
    have recorded := records file.destination name
    rw [producers_congr same] at recorded
    cases listed : producers destination name entries with
    | nil =>
        rw [found, listed] at recorded
        cases recorded
    | cons first others =>
        rw [listed] at counted
        rcases Option.map_eq_some_iff.1 counted with ⟨entry, looked, shape⟩
        rw [Prod.mk.injEq] at shape
        simp [looked, same, shape]
  · rw [if_neg (mt (Batch.produces_iff product).1 same), List.append_nil, ← counted]
    congr 1
    funext entry
    simp only [Function.comp, if_neg same]

/-- Naming a file records it after the files before it. -/
theorem named (records : ledger.Records entries) {earlier outcomes : List TaggedFile}
    {after : Ledger} (step : batch.Named ledger earlier file outcomes after) :
    after.Records (entries ++ [(batch, file)]) := by
  cases step with
  | unproduced nothing => exact records.unproduced nothing
  | first product fresh => exact records.addFirst product fresh
  | later product found _ _ _ => exact records.count product found

end Ledger.Records

/-! ### Files that are found once -/

theorem index_eq_of_sameAs {paths : List Path}
    (distinct : paths.Pairwise fun left right => left.sameAs right = false) {i j : Nat}
    {left right : Path} (leftAt : paths[i]? = some left) (rightAt : paths[j]? = some right)
    (same : left.sameAs right = true) : i = j := by
  rw [List.pairwise_iff_getElem] at distinct
  rcases List.getElem?_eq_some_iff.1 leftAt with ⟨leftLt, rfl⟩
  rcases List.getElem?_eq_some_iff.1 rightAt with ⟨rightLt, rfl⟩
  rcases Nat.lt_trichotomy i j with less | equal | greater
  · have different := distinct i j leftLt rightLt less
    rw [same] at different
    cases different
  · exact equal
  · have different := distinct j i rightLt leftLt greater
    rw [Path.sameAs_comm, same] at different
    cases different

/-- A file is known by where it is found, if none is found twice. -/
theorem entry_eq_of_sameAs {all : List Entry}
    (distinct : all.Pairwise fun left right => left.2.location.sameAs right.2.location = false)
    {left right : Entry} (leftIn : left ∈ all) (rightIn : right ∈ all)
    (same : left.2.location.sameAs right.2.location = true) : left = right := by
  rcases List.mem_iff_getElem?.1 leftIn with ⟨i, leftAt⟩
  rcases List.mem_iff_getElem?.1 rightIn with ⟨j, rightAt⟩
  have equal : i = j := by
    refine index_eq_of_sameAs (List.pairwise_map.2 distinct) ?_ ?_ same
    · rw [List.getElem?_map, leftAt, Option.map_some]
    · rw [List.getElem?_map, rightAt, Option.map_some]
  rw [equal, rightAt] at leftAt
  exact (Option.some.inj leftAt).symm

/-- A file at the place that is recorded for a name is the first one to have produced it. -/
theorem Ledger.Records.produces_of_sameAs {ledger : Ledger} {all : List Entry}
    (records : ledger.Records all)
    (distinct : all.Pairwise fun left right => left.2.location.sameAs right.2.location = false)
    {destination : Path} {name : String} {produced : ProducedName}
    (found : ledger.find? destination name = some produced) {entry : Entry}
    (inside : entry ∈ all) (there : entry.2.location.sameAs produced.first = true) :
    entry.1.produces destination name entry.2 = true := by
  rcases records.producers_eq_cons found with ⟨first, others, listed, -, recorded⟩
  have among : first ∈ producers destination name all := by
    simp [listed]
  rw [producers, List.mem_filter] at among
  rw [recorded] at there
  rw [entry_eq_of_sameAs distinct inside among.1 there]
  exact among.2

theorem Regular.left {front back : List Entry} (regular : Regular (front ++ back)) :
    Regular front where
  distinct := (List.pairwise_append.1 regular.distinct).1
  uniform := by
    intro left leftIn right rightIn
    exact regular.uniform left (List.mem_append_left _ leftIn) right
      (List.mem_append_left _ rightIn)

end TagOrganizer
