import Mathlib
import TagOrganizer.Proofs.Renaming.Progress
import TagOrganizer.Proofs.Template.Meaning

/-!
# Distinct names

The ledger records names without spans only, so that a numbered name can also be the plain name of
another file (`outputName_eq_photos`). This is all that goes wrong if the numbers can be read from
the names: files with one destination then have different names unless the plain name of one of them
is a numbered name of another one (`pairwise_outputName_ne_of_ends_name`).
-/

namespace TagOrganizer

/-! ### Numbers are read from names -/

namespace Template

namespace Grammar

variable {m n : Nat} {stop : Char}

/-- Whether what comes behind a number is told from it and from the character in front of it. -/
def ApartFromNumbers (stop : Char) (behind : List Char) : Prop :=
  stop ∉ behind ∧ ∀ first ∈ behind.head?, first.isDigit = false

theorem takeWhile_isDigit_repr_append {behind : List Char}
    (apart : ∀ first ∈ behind.head?, first.isDigit = false) :
    ((Nat.repr n).toList ++ behind).takeWhile Char.isDigit = (Nat.repr n).toList := by
  rw [List.takeWhile_append_of_pos fun digit present => isDigit_of_mem_repr present]
  cases behind with
  | nil => simp
  | cons first rest => simp [apart first (by simp)]

theorem repr_append_inj {behind rest : List Char}
    (apart : ∀ first ∈ behind.head?, first.isDigit = false)
    (apartRest : ∀ first ∈ rest.head?, first.isDigit = false)
    (equal : (Nat.repr m).toList ++ behind = (Nat.repr n).toList ++ rest) :
    m = n ∧ behind = rest := by
  have digits : (Nat.repr m).toList = (Nat.repr n).toList := by
    rw [← takeWhile_isDigit_repr_append apart, equal, takeWhile_isDigit_repr_append apartRest]
  refine ⟨Nat.repr_injective (String.toList_injective digits), ?_⟩
  rw [digits] at equal
  exact List.append_cancel_left equal

theorem append_cons_inj_of_not_mem {front other back rest : List Char} (absent : stop ∉ back)
    (absentRest : stop ∉ rest) (equal : front ++ stop :: back = other ++ stop :: rest) :
    front = other ∧ back = rest := by
  rcases List.append_eq_append_iff.1 equal with ⟨between, rfl, tail⟩ | ⟨between, rfl, tail⟩
  · cases between with
    | nil => simpa using tail
    | cons first between =>
        rw [List.cons_append, List.cons.injEq] at tail
        rw [tail.2] at absent
        simp at absent
  · cases between with
    | nil => simpa [eq_comm] using tail
    | cons first between =>
        rw [List.cons_append, List.cons.injEq] at tail
        rw [tail.2] at absentRest
        simp at absentRest

/-- A mark that ends with no digit tells a number from what is in front of it. -/
theorem mark_append_repr_inj {start front other behind rest : List Char}
    (noDigit : stop.isDigit = false) (apart : ApartFromNumbers stop behind)
    (apartRest : ApartFromNumbers stop rest)
    (equal : front ++ (start ++ [stop]) ++ (Nat.repr m).toList ++ behind =
      other ++ (start ++ [stop]) ++ (Nat.repr n).toList ++ rest) :
    front = other ∧ m = n ∧ behind = rest := by
  have absent (number : Nat) {last : List Char} (apart : ApartFromNumbers stop last) :
      stop ∉ (Nat.repr number).toList ++ last := by
    rw [List.mem_append, not_or]
    refine ⟨fun present => ?_, apart.1⟩
    rw [isDigit_of_mem_repr present] at noDigit
    cases noDigit
  have shape (first numeral last : List Char) : first ++ (start ++ [stop]) ++ numeral ++ last =
      (first ++ start) ++ stop :: (numeral ++ last) := by
    simp
  rw [shape, shape] at equal
  rcases append_cons_inj_of_not_mem (absent m apart) (absent n apartRest) equal with
    ⟨marked, numbered⟩
  exact ⟨List.append_cancel_right marked, repr_append_inj apart.2 apartRest.2 numbered⟩

theorem alone_numberedBehind (mark : Plain) (front back : List Item) :
    alone (numberedBehind mark front back) = front ++ back := by
  simp [alone, numberedBehind, List.flatMap_map]

theorem numbered_numberedBehind (mark : Plain) (front back : List Item) (number : Nat) :
    numbered number (numberedBehind mark front back) =
      front ++ [.simple (.text mark), .simple (.text (decimal number))] ++ back := by
  simp [numbered, numberedBehind, List.flatMap_map, SpanItem.numbered]

end Grammar

end Template

theorem Namer.exists_rule_of_findFormat {namer : Namer} {tags : List String} {resolver : Resolver}
    {format : String} (found : (namer.findFormat tags resolver).result = .ok (some format)) :
    ∃ rule ∈ namer.rules, rule.format = format := by
  unfold findFormat at found
  generalize namer.rules = rules at found ⊢
  induction rules with
  | nil => cases found
  | cons rule rules ih =>
      rw [formatOf?, Evaluation.result_bind] at found
      rcases Except.bind_eq_ok_iff.1 found with ⟨holds, -, found⟩
      cases holds with
      | true =>
          cases found
          exact ⟨rule, by simp, rfl⟩
      | false =>
          rcases ih found with ⟨chosen, among, rfl⟩
          exact ⟨chosen, by simp [among], rfl⟩

namespace Batch

open Template.Grammar

variable {batch : Batch} {outcomes : List TaggedFile} {ledger : Ledger}
  {file other outcome decided : TaggedFile} {format name : String} {mark : Plain} {stop : Char}

/--
Batches whose rules number their files behind one mark, which ends with a character that is no
digit; what the formats put behind the number is told from it for each file.
-/
structure Marked (batch : Batch) (mark : Plain) (stop : Char) : Prop where
  stops : ∃ start, mark.text.toList = start ++ [stop]
  noDigit : stop.isDigit = false
  formats : ∀ rule ∈ batch.namer.rules, ∃ front back,
    rule.format = formatOf (numberedBehind mark front back) ∧ ∀ file ∈ batch.files,
      ApartFromNumbers stop (back.flatMap (Item.value file batch.resolver.belongs))

/-- Whether the plain name of a file is a numbered name of another one of its destination. -/
def Overlaps (batch : Batch) (file other : TaggedFile) : Prop :=
  ∃ format name own plain number, batch.product? file = some (format, name) ∧
    batch.product? other = some (own, plain) ∧
    (Template.nameNumbered own number other batch.resolver).result = .ok name

/-- Whether a file got a name by a rule, given what became of it. -/
def Renames (batch : Batch) (file outcome : TaggedFile) : Prop :=
  (batch.product? file).isSome = true ∧ outcome.renameFailed = false

/-! ### What becomes of one file -/

/-- A file that keeps a name is the only one of it, and any other one is named by its rank. -/
theorem Settled.outputName_eq {rank : Nat} {again : Bool} (positive : 1 ≤ rank)
    (settled : batch.Settled rank again format name file outcome)
    (named : outcome.renameFailed = false) :
    (rank = 1 ∧ again = false ∧ outcome.outputName = name) ∨
      (Template.nameNumbered format rank file batch.resolver).result = .ok outcome.outputName := by
  unfold Settled at settled
  split at settled
  · rcases settled with ⟨number, numbered, rfl⟩
    rw [TaggedFile.outputName_given_of_not_failed named]
    exact .inr numbered
  · have first : rank = 1 := by omega
    split at settled
    · rcases settled with ⟨number, numbered, rfl⟩
      rw [TaggedFile.outputName_given_of_not_failed named, first]
      exact .inr numbered
    · rename_i single
      rw [settled] at named ⊢
      exact .inl ⟨first, by simpa using single, TaggedFile.outputName_given_of_not_failed named⟩

theorem Marked.exists_parts (marked : batch.Marked mark stop) (picks : batch.resolver.PicksFirst)
    (present : file ∈ batch.files) (product : batch.product? file = some (format, name)) :
    ∃ front behind, ApartFromNumbers stop behind ∧ name.toList = front ++ behind ∧
      ∀ number chosen,
        (Template.nameNumbered format number file batch.resolver).result = .ok chosen →
        chosen.toList = front ++ mark.text.toList ++ (Nat.repr number).toList ++ behind := by
  rcases findFormat_and_nameAlone_of_product? product with ⟨found, named⟩
  rcases Namer.exists_rule_of_findFormat found with ⟨rule, among, rfl⟩
  rcases marked.formats rule among with ⟨front, back, shape, apart⟩
  refine ⟨front.flatMap (Item.value file batch.resolver.belongs),
    back.flatMap (Item.value file batch.resolver.belongs), apart file present, ?_, ?_⟩
  · rw [shape, result_nameAlone_formatOf _ picks] at named
    rw [eq_of_outcome_eq_ok named, alone_numberedBehind]
    simp [valueOf]
  · intro number chosen numbered
    rw [shape, result_nameNumbered_formatOf _ picks] at numbered
    rw [eq_of_outcome_eq_ok numbered, numbered_numberedBehind]
    simp [valueOf, Item.value, Simple.value, decimal]

/-! ### What becomes of two files -/

theorem Marked.eq_of_nameNumbered (marked : batch.Marked mark stop)
    (picks : batch.resolver.PicksFirst) (present : file ∈ batch.files)
    (among : other ∈ batch.files) (product : batch.product? file = some (format, name))
    {own plain chosen : String} (productOther : batch.product? other = some (own, plain))
    {rank number : Nat}
    (numbered : (Template.nameNumbered format rank file batch.resolver).result = .ok chosen)
    (numberedOther :
      (Template.nameNumbered own number other batch.resolver).result = .ok chosen) :
    rank = number ∧ name = plain := by
  rcases marked.exists_parts picks present product with ⟨front, behind, apart, parts, reads⟩
  rcases marked.exists_parts picks among productOther with
    ⟨frontOther, behindOther, apartOther, partsOther, readsOther⟩
  rcases marked.stops with ⟨start, stops⟩
  have equal := (reads _ _ numbered).symm.trans (readsOther _ _ numberedOther)
  rw [stops] at equal
  rcases mark_append_repr_inj marked.noDigit apart apartOther equal with ⟨rfl, rfl, rfl⟩
  exact ⟨rfl, String.toList_injective (parts.trans partsOther.symm)⟩

theorem Progress.outputName_ne {before : List Entry} {left middle right : List TaggedFile}
    (progress : batch.Progress before batch.files outcomes ledger)
    (marked : batch.Marked mark stop) (picks : batch.resolver.PicksFirst)
    (split : batch.files = left ++ file :: (middle ++ other :: right))
    (at_ : outcomes[left.length]? = some outcome)
    (atOther : outcomes[(left ++ file :: middle).length]? = some decided)
    (same : file.destination.sameAs other.destination = true)
    (separate : ¬batch.Overlaps file other) (separateOther : ¬batch.Overlaps other file)
    (renames : batch.Renames file outcome) (renamesOther : batch.Renames other decided) :
    outcome.outputName ≠ decided.outputName := by
  rcases renames with ⟨produces, named⟩
  rcases renamesOther with ⟨producesOther, namedOther⟩
  rcases Option.isSome_iff_exists.1 produces with ⟨⟨format, name⟩, product⟩
  rcases Option.isSome_iff_exists.1 producesOther with ⟨⟨own, plain⟩, productOther⟩
  have splitOther : batch.files = (left ++ file :: middle) ++ other :: right := by
    simp [split]
  rcases progress.settled _ _ _ _ _ split product with ⟨_, here, settled⟩
  rcases progress.settled _ _ _ _ _ splitOther productOther with ⟨_, there, settledOther⟩
  cases at_.symm.trans here
  cases atOther.symm.trans there
  intro equal
  rcases settled.outputName_eq (Nat.le_add_left 1 _) named with
    ⟨-, single, kept⟩ | numbered
  · rcases settledOther.outputName_eq (Nat.le_add_left 1 _) namedOther with
      ⟨-, -, keptOther⟩ | numberedOther
    · -- The first file of a name does not keep it if the name is produced again.
      rw [← keptOther, ← equal, kept] at productOther
      rw [List.any_eq_false] at single
      refine single other (by simp) ?_
      rw [produces_iff productOther]
      exact ⟨by rwa [Path.sameAs_comm], rfl⟩
    · rw [← equal, kept] at numberedOther
      exact separate ⟨_, _, _, _, _, product, productOther, numberedOther⟩
  · rcases settledOther.outputName_eq (Nat.le_add_left 1 _) namedOther with
      ⟨-, -, keptOther⟩ | numberedOther
    · rw [equal, keptOther] at numbered
      exact separateOther ⟨_, _, _, _, _, productOther, product, numbered⟩
    · -- Two files of one name have different ranks.
      rw [← equal] at numberedOther
      rcases marked.eq_of_nameNumbered picks (by simp [split]) (by simp [split]) product
        productOther numbered numberedOther with ⟨ranks, rfl⟩
      rw [← producers_congr same, List.map_append, List.map_cons, ← List.append_assoc,
        producers_append _ _ (before ++ _), producers_cons, if_pos (produces_self product),
        List.length_append, List.length_cons] at ranks
      omega

theorem exists_split_of_lt (files : List TaggedFile) {i j : Nat} (less : i < j)
    (bound : j < files.length) :
    ∃ left middle right,
      files = left ++ files[i] :: (middle ++ files[j] :: right) ∧ left.length = i ∧
        (left ++ files[i] :: middle).length = j := by
  have later : files = files.take j ++ files[j] :: files.drop (j + 1) := by
    rw [← List.drop_eq_getElem_cons, List.take_append_drop]
  have earlier : files.take j = files.take i ++ files[i] :: (files.take j).drop (i + 1) := by
    have inside : i < (files.take j).length := by
      rw [List.length_take]
      omega
    have within := List.take_append_drop i (files.take j)
    rw [List.drop_eq_getElem_cons inside, List.take_take, Nat.min_eq_left (Nat.le_of_lt less),
      List.getElem_take] at within
    exact within.symm
  refine ⟨files.take i, (files.take j).drop (i + 1), files.drop (j + 1), ?_, ?_, ?_⟩
  · rw [← List.cons_append, ← List.append_assoc, ← earlier, ← later]
  · rw [List.length_take]
    omega
  · rw [← earlier, List.length_take]
    omega

/--
In a batch that starts from the empty ledger and numbers its files behind a mark, two renamed files
with one destination have different names unless the plain name of one of them is a numbered name of
the other one.
-/
theorem pairwise_outputName_ne_of_ends_name (regular : Regular (batch.files.map (Prod.mk batch)))
    (picks : batch.resolver.PicksFirst) (marked : batch.Marked mark stop)
    (ended : batch.name.ends Ledger.empty = (.ok outcomes, ledger)) :
    (batch.files.zip outcomes).Pairwise fun left right =>
      left.1.destination.sameAs right.1.destination = true →
      batch.Renames left.1 left.2 → batch.Renames right.1 right.2 →
      left.2.outputName = right.2.outputName →
      batch.Overlaps left.1 right.1 ∨ batch.Overlaps right.1 left.1 := by
  rw [ends_name_empty] at ended
  have start : batch.Progress [] [] [] Ledger.empty := ⟨fun _ _ => rfl, rfl, by simp⟩
  have progress := start.run regular ended
  rw [List.nil_append] at progress
  rw [List.pairwise_iff_getElem]
  intro i j boundLeft boundRight less same renames renamesOther
  rw [List.length_zip] at boundLeft boundRight
  contrapose!
  simp only [List.getElem_zip] at same renames renamesOther ⊢
  rintro ⟨separate, separateOther⟩
  rcases exists_split_of_lt batch.files less (by omega) with
    ⟨left, middle, right, split, first, second⟩
  refine progress.outputName_ne marked picks split ?_ ?_ same separate separateOther renames
    renamesOther
  · rw [first]
    exact List.getElem?_eq_getElem _
  · rw [second]
    exact List.getElem?_eq_getElem _

section Photos

/-- A mark between a name and its number. -/
def blank : Plain := ⟨" ", by decide⟩

/-- A file without tags. -/
def photo (name : String) (location : Path) : TaggedFile :=
  TaggedFile.undecided name "" "" [] name location

/-- Files that keep their names, with a number behind them where these are equal. -/
def photos (files : List TaggedFile) : Batch where
  namer :=
    ⟨[⟨⟨[⟨[.all]⟩]⟩, formatOf (numberedBehind blank [.simple .file] [])⟩], []⟩
  resolver := GroupTable.empty.resolver
  options := ⟨true, false, false⟩
  files := files

theorem product?_photos (files : List TaggedFile) (location : Path) :
    (photos files).product? (photo "a" location) =
      some ("/FILE|/ITER| /#|/EITER|", "a") := by
  cbv

/-- Two photos of one name. -/
def pair : List TaggedFile :=
  [photo "a" ⟨"1"⟩, photo "a" ⟨"2"⟩]

theorem regular_pair : Regular (pair.map (Prod.mk (photos pair))) where
  distinct := of_decide_eq_true (by cbv)
  uniform := by
    have product : ∀ entry ∈ pair.map (Prod.mk (photos pair)), entry.1.product? entry.2 =
        some ("/FILE|/ITER| /#|/EITER|", "a") := by
      intro entry present
      simp only [pair, List.map_cons, List.map_nil, List.mem_cons, List.not_mem_nil,
        or_false] at present
      rcases present with rfl | rfl
      · exact product?_photos _ _
      · exact product?_photos _ _
    intro left leftIn right rightIn format other name leftProduct rightProduct _
    cases (product left leftIn).symm.trans leftProduct
    cases (product right rightIn).symm.trans rightProduct
    rfl

theorem marked_pair : (photos pair).Marked blank ' ' where
  stops := ⟨[], rfl⟩
  noDigit := rfl
  formats := by
    intro rule among
    cases List.mem_singleton.1 among
    refine ⟨_, _, rfl, ?_⟩
    intro file _
    simp [ApartFromNumbers]

/-- Two photos of one name have different names. -/
theorem pairwise_outputName_ne_pair :
    let outcomes :=
      [{ photo "a" ⟨"1"⟩ with outputName := "a 1" },
        { photo "a" ⟨"2"⟩ with outputName := "a 2" }]
    let ledger : Ledger := ⟨[⟨Path.empty, "a", 2, ⟨"1"⟩⟩]⟩
    Regular ((photos pair).files.map (Prod.mk (photos pair))) ∧
      (photos pair).resolver.PicksFirst ∧ (photos pair).Marked blank ' ' ∧
      (photos pair).name.ends Ledger.empty = (.ok outcomes, ledger) ∧
      ((photos pair).files.zip outcomes).Pairwise fun left right =>
        left.1.destination.sameAs right.1.destination = true →
        (photos pair).Renames left.1 left.2 → (photos pair).Renames right.1 right.2 →
        left.2.outputName = right.2.outputName →
        (photos pair).Overlaps left.1 right.1 ∨ (photos pair).Overlaps right.1 left.1 := by
  intro outcomes ledger
  have picks : (photos pair).resolver.PicksFirst := GroupTable.empty.picksFirst_resolver
  have ended : (photos pair).name.ends Ledger.empty = (.ok outcomes, ledger) := by cbv
  exact ⟨regular_pair, picks, marked_pair, ended,
    pairwise_outputName_ne_of_ends_name regular_pair picks marked_pair ended⟩

/-- The numbered name of the first photo is the plain name of the third one. -/
theorem outputName_eq_photos :
    let batch := photos [photo "a" ⟨"1"⟩, photo "a" ⟨"2"⟩, photo "a 1" ⟨"3"⟩]
    let first := { photo "a" ⟨"1"⟩ with outputName := "a 1" }
    let second := { photo "a" ⟨"2"⟩ with outputName := "a 2" }
    let third := { photo "a 1" ⟨"3"⟩ with outputName := "a 1" }
    (batch.files.Pairwise fun left right => left.location.sameAs right.location = false) ∧
      (∀ rule ∈ batch.namer.rules, ∃ front back,
        rule.format = formatOf (numberedBehind blank front back)) ∧
      (batch.name.ends Ledger.empty).1 = .ok [first, second, third] ∧
      batch.Renames (photo "a" ⟨"1"⟩) first ∧ batch.Renames (photo "a 1" ⟨"3"⟩) third ∧
      first.destination.sameAs third.destination = true ∧
      first.outputName = third.outputName := by
  intro batch first second third
  refine ⟨of_decide_eq_true (by cbv), ?_, by cbv, ⟨by cbv, rfl⟩, ⟨by cbv, rfl⟩, by cbv, rfl⟩
  intro rule among
  cases List.mem_singleton.1 among
  exact ⟨_, _, rfl⟩

end Photos

end Batch

end TagOrganizer
