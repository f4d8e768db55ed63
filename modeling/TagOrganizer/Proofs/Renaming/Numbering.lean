import Mathlib
import TagOrganizer.Proofs.Renaming.Progress

/-!
# Numbering over batches

Over any sequence of batches the ledger counts how many files have produced each name, and each of
these files is named by its rank among them (`occurrences_and_settled`).
-/

namespace TagOrganizer

namespace Numbering

/-- Names the files of some batches, one batch after the other. -/
def nameBatches (batches : List Batch) : Naming (List (List TaggedFile)) :=
  batches.mapM Batch.name

/-- What has been decided for a file of a batch, by the positions of the two. -/
def decidedAt (outcomes : List (List TaggedFile)) (batch position : Nat) : Option TaggedFile :=
  outcomes[batch]?.bind fun named => named[position]?

theorem records_and_settled {batches : List Batch} {before : List Entry} {ledger after : Ledger}
    {outcomes : List (List TaggedFile)}
    (kept : ∀ batch ∈ batches, batch.options.clearOccurrences = false)
    (regular : Regular (before ++ entries batches)) (records : ledger.Records before)
    (ended : (nameBatches batches).ends ledger = (.ok outcomes, after)) :
    after.Records (before ++ entries batches) ∧
      ∀ front batch back left file right format name, batches = front ++ batch :: back →
        batch.files = left ++ file :: right → batch.product? file = some (format, name) →
        ∃ outcome, decidedAt outcomes front.length left.length = some outcome ∧
          batch.Settled
            ((producers file.destination name
              (before ++ entries front ++ left.map (Prod.mk batch))).length + 1)
            (right.any (batch.produces file.destination name)) format name file outcome := by
  induction batches generalizing before ledger outcomes with
  | nil =>
      simp only [nameBatches, List.mapM_nil, Act.ends_pure, Prod.mk.injEq, Except.ok.injEq] at ended
      rcases ended with ⟨rfl, rfl⟩
      refine ⟨by simpa [entries] using records, ?_⟩
      intro front batch back left file right format name shape
      simp at shape
  | cons batch batches ih =>
      rw [nameBatches, List.mapM_cons] at ended
      rcases Act.ends_bind_eq_ok_iff.1 ended with ⟨named, between, first, ended⟩
      rcases Act.ends_bind_eq_ok_iff.1 ended with ⟨others, last, rest, ended⟩
      rw [Act.ends_pure, Prod.mk.injEq, Except.ok.injEq] at ended
      rcases ended with ⟨rfl, rfl⟩
      have shape : before ++ entries (batch :: batches) =
          before ++ batch.files.map (Prod.mk batch) ++ entries batches := by
        simp [entries]
      rw [shape] at regular ⊢
      have progress := Batch.progress_of_ends_name (kept batch (by simp)) records regular.left first
      rcases ih (fun other present => kept other (by simp [present])) regular progress.records rest
        with ⟨recorded, settled⟩
      refine ⟨recorded, ?_⟩
      intro front other back left file right format name split inside product
      cases front with
      | nil =>
          cases split
          rcases progress.settled left file right format name inside product with
            ⟨outcome, at_, decided⟩
          refine ⟨outcome, at_, ?_⟩
          simpa [entries] using decided
      | cons head front =>
          cases split
          rcases settled front other back left file right format name rfl inside product with
            ⟨outcome, at_, decided⟩
          refine ⟨outcome, at_, ?_⟩
          simpa [entries] using decided

/--
Numbering over any run of batches that starts from the empty ledger. The ledger counts the files
that have produced each name. Each of them is settled by its rank among them; the first one is named
as occurrence 1 iff the name is produced again in its batch.
-/
theorem occurrences_and_settled {batches : List Batch} {outcomes : List (List TaggedFile)}
    {ledger : Ledger} (kept : ∀ batch ∈ batches, batch.options.clearOccurrences = false)
    (regular : Regular (entries batches))
    (ended : (nameBatches batches).ends Ledger.empty = (.ok outcomes, ledger)) :
    (∀ destination name, ledger.occurrences destination name =
        (producers destination name (entries batches)).length) ∧
      ∀ front batch back left file right format name, batches = front ++ batch :: back →
        batch.files = left ++ file :: right → batch.product? file = some (format, name) →
        ∃ outcome, decidedAt outcomes front.length left.length = some outcome ∧
          batch.Settled
            ((producers file.destination name
              (entries front ++ left.map (Prod.mk batch))).length + 1)
            (right.any (batch.produces file.destination name)) format name file outcome := by
  have start : Ledger.empty.Records [] := fun _ _ => rfl
  rcases records_and_settled kept (by simpa using regular) start ended with ⟨records, settled⟩
  refine ⟨?_, by simpa using settled⟩
  intro destination name
  simpa using records.occurrences_eq destination name

/-- Files that are all named by one rule. -/
def scans (files : List TaggedFile) : Batch where
  namer := ⟨[⟨⟨[⟨[.all]⟩]⟩, "a/ITER|/#|/EITER|"⟩], []⟩
  resolver := GroupTable.empty.resolver
  options := ⟨true, false, false⟩
  files := files

/-- A file about which nothing has been decided. -/
def scan (location : Path) : TaggedFile :=
  TaggedFile.undecided "x" "" "" [] "x" location

theorem product?_scan (files : List TaggedFile) (location : Path) :
    (scans files).product? (scan location) = some ("a/ITER|/#|/EITER|", "a") := by
  cbv

/-- Two batches with three files of one name. -/
def scanBatches : List Batch :=
  [scans [scan ⟨"1"⟩, scan ⟨"2"⟩], scans [scan ⟨"3"⟩]]

theorem product?_scanBatches :
    ∀ entry ∈ entries scanBatches,
      entry.1.product? entry.2 = some ("a/ITER|/#|/EITER|", "a") := by
  intro entry present
  simp only [entries, scanBatches, scans, List.flatMap_cons, List.flatMap_nil, List.map_cons,
    List.map_nil, List.cons_append, List.nil_append, List.mem_cons, List.not_mem_nil,
    or_false] at present
  rcases present with rfl | rfl | rfl
  · exact product?_scan _ _
  · exact product?_scan _ _
  · exact product?_scan _ _

theorem regular_scanBatches : Regular (entries scanBatches) where
  distinct := of_decide_eq_true (by cbv)
  uniform := by
    intro left leftIn right rightIn format other name leftProduct rightProduct _
    rw [product?_scanBatches left leftIn] at leftProduct
    rw [product?_scanBatches right rightIn] at rightProduct
    cases leftProduct
    cases rightProduct
    rfl

/-- The third file of a name is named as occurrence 3, although it is the first of its batch. -/
theorem occurrences_and_settled_scanBatches :
    let outcomes :=
      [[{ scan ⟨"1"⟩ with outputName := "a1" }, { scan ⟨"2"⟩ with outputName := "a2" }],
        [{ scan ⟨"3"⟩ with outputName := "a3" }]]
    let ledger : Ledger := ⟨[⟨Path.empty, "a", 3, ⟨"1"⟩⟩]⟩
    (∀ batch ∈ scanBatches, batch.options.clearOccurrences = false) ∧
      Regular (entries scanBatches) ∧
      (nameBatches scanBatches).ends Ledger.empty = (.ok outcomes, ledger) ∧
      ledger.occurrences Path.empty "a" = (producers Path.empty "a" (entries scanBatches)).length ∧
      ∃ outcome, decidedAt outcomes 1 0 = some outcome ∧
        (scans [scan ⟨"3"⟩]).Settled 3 false "a/ITER|/#|/EITER|" "a" (scan ⟨"3"⟩) outcome := by
  intro outcomes ledger
  have kept : ∀ batch ∈ scanBatches, batch.options.clearOccurrences = false := by
    simp [scanBatches, scans]
  have ended : (nameBatches scanBatches).ends Ledger.empty = (.ok outcomes, ledger) := by cbv
  rcases occurrences_and_settled kept regular_scanBatches ended with ⟨counted, settled⟩
  refine ⟨kept, regular_scanBatches, ended, counted _ _, ?_⟩
  have rank : (producers (scan ⟨"3"⟩).destination "a"
      (entries [scans [scan ⟨"1"⟩, scan ⟨"2"⟩]] ++ [])).length + 1 = 3 := by cbv
  have third := settled [scans [scan ⟨"1"⟩, scan ⟨"2"⟩]] (scans [scan ⟨"3"⟩]) [] [] (scan ⟨"3"⟩) []
    _ _ rfl rfl (product?_scan _ _)
  rw [List.map_nil, rank] at third
  exact third

end Numbering

end TagOrganizer
