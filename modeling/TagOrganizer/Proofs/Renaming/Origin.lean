import TagOrganizer.Proofs.Renaming.Producers
import TagOrganizer.Proofs.Template.Meaning

/-!
# Where names come from

The first rule whose filter holds for a file names it, with one exception: when a second file comes
with the same plain name, the first one is named again by the format of the second. Where files of
one plain name have different formats, a file can so be named by a rule that is not its own
(`outputName_of_ends_name`, `not_ownName_variants`).
-/

namespace TagOrganizer

namespace Batch

/-- Whether a name comes from the format of the first rule that holds for a file. -/
def OwnName (batch : Batch) (file : TaggedFile) (name : String) : Prop :=
  ∃ format, (batch.namer.findFormat file.tags batch.resolver).result = .ok (some format) ∧
    ((Template.nameAlone format file batch.resolver).result = .ok name ∨
      ∃ number, 1 ≤ number ∧
        (Template.nameNumbered format number file batch.resolver).result = .ok name)

/--
Whether a name is that of occurrence 1 by the format of another file of the batch, which has the
same destination and produces the same plain name.
-/
def LentName (batch : Batch) (file : TaggedFile) (name : String) : Prop :=
  ∃ other ∈ batch.files, ∃ own format plain, batch.product? file = some (own, plain) ∧
    batch.product? other = some (format, plain) ∧
    file.destination.sameAs other.destination = true ∧
    (Template.nameNumbered format 1 file batch.resolver).result = .ok name

/-- What becomes of a file: its name is kept, its own or lent, and nothing else is changed. -/
structure Origin (batch : Batch) (file outcome : TaggedFile) : Prop where
  decided : ∃ outputName renameFailed, outcome = { file with outputName, renameFailed }
  name : outcome.outputName = file.outputName ∨ batch.OwnName file outcome.outputName ∨
    batch.LentName file outcome.outputName

variable {batch : Batch} {ledger after : Ledger} {front outcomes renamed named : List TaggedFile}
  {file other outcome : TaggedFile} {format name number : String}

theorem origin_of_failed (file : TaggedFile) (failed : Bool) :
    batch.Origin file { file with renameFailed := failed } where
  decided := ⟨file.outputName, failed, rfl⟩
  name := .inl rfl

theorem origin_given (own : batch.OwnName file name) : batch.Origin file (file.given name) where
  decided := file.exists_given_eq name
  name := by
    rcases file.outputName_given name with kept | new
    · exact .inl kept
    · rw [new]
      exact .inr (.inl own)

theorem Origin.given (origin : batch.Origin other outcome) {plain own : String}
    (among : file ∈ batch.files) (product : batch.product? file = some (format, plain))
    (productOther : batch.product? other = some (own, plain))
    (same : other.destination.sameAs file.destination = true)
    (numbered : (Template.nameNumbered format 1 outcome batch.resolver).result = .ok number) :
    batch.Origin other (outcome.given number) where
  decided := by
    rcases origin.decided with ⟨_, _, rfl⟩
    exact TaggedFile.exists_given_eq number _
  name := by
    rcases outcome.outputName_given number with kept | new
    · rw [kept]
      exact origin.name
    · rw [new]
      rcases origin.decided with ⟨outputName, renameFailed, rfl⟩
      rw [Template.nameNumbered_decided] at numbered
      exact .inr (.inr ⟨file, among, own, format, plain, productOther, product, same, numbered⟩)

theorem forall₂_origin_of_renameFirst (origins : List.Forall₂ batch.Origin front outcomes)
    (distinct : front.Pairwise fun left right => left.location.sameAs right.location = false)
    (records : ledger.Records (front.map (Prod.mk batch))) (among : file ∈ batch.files)
    (product : batch.product? file = some (format, name)) {produced : ProducedName}
    (found : ledger.find? file.destination name = some produced)
    (again : (Naming.renameFirst format name batch.resolver produced.first outcomes).result =
      .ok renamed) :
    List.Forall₂ batch.Origin front renamed := by
  rcases Naming.result_renameFirst again with
    ⟨rfl, -⟩ | ⟨before, decided, behind, number, rfl, there, numbered, rfl⟩
  · exact origins
  · have earlier := List.forall₂_take_append _ _ _ origins
    have rest := List.forall₂_drop_append _ _ _ origins
    rcases List.forall₂_cons_right_iff.1 rest with ⟨first, later, origin, further, split⟩
    have shape : front = front.take before.length ++ first :: later := by
      rw [← split, List.take_append_drop]
    have inside : first ∈ front := by
      rw [shape]
      simp
    have located : decided.location = first.location := by
      rcases origin.decided with ⟨_, _, rfl⟩
      rfl
    rw [located] at there
    have produces : batch.produces file.destination name first = true :=
      records.produces_of_sameAs (List.pairwise_map.2 distinct) found
        (List.mem_map_of_mem inside) there
    rcases exists_product?_of_produces produces with ⟨own, productFirst, same⟩
    rw [shape]
    exact List.rel_append earlier (.cons (origin.given among product productFirst same numbered)
      further)

theorem forall₂_origin_of_named (origins : List.Forall₂ batch.Origin front outcomes)
    (distinct : front.Pairwise fun left right => left.location.sameAs right.location = false)
    (records : ledger.Records (front.map (Prod.mk batch))) (among : file ∈ batch.files)
    (step : batch.Named ledger outcomes file named after) :
    List.Forall₂ batch.Origin (front ++ [file]) named := by
  cases step with
  | unproduced nothing => exact List.rel_append origins (.cons (origin_of_failed file _) .nil)
  | @first format name product fresh =>
      rcases findFormat_and_nameAlone_of_product? product with ⟨chosen, alone⟩
      have own : batch.OwnName file name := ⟨format, chosen, .inl alone⟩
      exact List.rel_append origins (.cons (origin_given own) .nil)
  | @later format name number produced renamed product found second further numbered =>
      rcases findFormat_and_nameAlone_of_product? product with ⟨chosen, -⟩
      have own : batch.OwnName file number :=
        ⟨format, chosen, .inr ⟨_, Nat.le_add_left 1 _, numbered⟩⟩
      have earlier : List.Forall₂ batch.Origin front renamed := by
        by_cases lone : produced.occurrences = 1
        · exact forall₂_origin_of_renameFirst origins distinct records among product found
            (second lone)
        · rwa [further lone]
      exact List.rel_append earlier (.cons (origin_given own) .nil)

theorem forall₂_origin_of_ends_nameAll {rest : List TaggedFile}
    (origins : List.Forall₂ batch.Origin front outcomes) (whole : batch.files = front ++ rest)
    (distinct : batch.files.Pairwise fun left right =>
      left.location.sameAs right.location = false)
    (records : ledger.Records (front.map (Prod.mk batch)))
    (ended : (Naming.nameAll batch.namer batch.resolver batch.options outcomes rest).ends ledger =
      (.ok named, after)) :
    List.Forall₂ batch.Origin batch.files named := by
  induction rest generalizing front outcomes ledger with
  | nil =>
      rw [Naming.nameAll, Act.ends_pure, Prod.mk.injEq, Except.ok.injEq] at ended
      rcases ended with ⟨rfl, rfl⟩
      rwa [whole, List.append_nil]
  | cons file rest ih =>
      rw [Naming.nameAll] at ended
      rcases Act.ends_bind_eq_ok_iff.1 ended with ⟨middle, between, step, ended⟩
      have apart : front.Pairwise fun left right =>
          left.location.sameAs right.location = false := by
        rw [whole] at distinct
        exact (List.pairwise_append.1 distinct).1
      have named := named_of_ends_nameFile step
      exact ih (forall₂_origin_of_named origins apart records (by simp [whole]) named)
        (by simpa using whole) (by simpa using records.named named) ended

/-- A lent name is the own one of a file if all files of one plain name have one format. -/
theorem LentName.own (regular : Regular (batch.files.map (Prod.mk batch)))
    (present : file ∈ batch.files) (lent : batch.LentName file name) :
    batch.OwnName file name := by
  rcases lent with ⟨other, among, own, format, plain, product, productOther, same, numbered⟩
  have equal := regular.uniform _ (List.mem_map_of_mem present) _ (List.mem_map_of_mem among)
    own format plain product productOther same
  rw [← equal] at numbered
  exact ⟨own, (findFormat_and_nameAlone_of_product? product).1, .inr ⟨1, Nat.le_refl 1, numbered⟩⟩

/--
Every file of a batch that starts from the empty ledger keeps its name, has a name by its own first
rule, alone or with a number, or has a name that was lent to it as occurrence 1. No name is lent
where files of one plain name have one format.
-/
theorem outputName_of_ends_name
    (distinct : batch.files.Pairwise fun left right =>
      left.location.sameAs right.location = false)
    (ended : batch.name.ends Ledger.empty = (.ok outcomes, ledger)) :
    List.Forall₂ (fun file outcome => outcome.outputName = file.outputName ∨
        batch.OwnName file outcome.outputName ∨ batch.LentName file outcome.outputName)
        batch.files outcomes ∧
      (Regular (batch.files.map (Prod.mk batch)) →
        List.Forall₂ (fun file outcome => outcome.outputName = file.outputName ∨
          batch.OwnName file outcome.outputName) batch.files outcomes) := by
  rw [ends_name_empty] at ended
  have start : Ledger.empty.Records [] := fun _ _ => rfl
  have origins := forall₂_origin_of_ends_nameAll .nil rfl distinct start ended
  refine ⟨origins.imp fun _ _ origin => origin.name, ?_⟩
  intro regular
  have present := (List.forall₂_and_left _ _).2 ⟨fun _ inside => inside, origins⟩
  refine present.imp ?_
  rintro file outcome ⟨inside, origin⟩
  rcases origin.name with kept | own | lent
  · exact .inl kept
  · exact .inr own
  · exact .inr (lent.own regular inside)

section Variants

open Template.Grammar

/-- The mark of one rule. -/
def minus : Plain := ⟨"-", by decide⟩

/-- The mark of another rule. -/
def plus : Plain := ⟨"+", by decide⟩

/-- Names that are numbered behind a mark. -/
def markedFormat (mark : Plain) : List Element :=
  [.item (.simple (.text ⟨"a", by decide⟩)), .span [.item (.simple (.text mark)), .occurrence]]

/-- A file that is named by the first of two rules. -/
def dark : TaggedFile :=
  TaggedFile.undecided "x" "" "" ["dark"] "x" ⟨"1"⟩

/-- A file that is named by the second of two rules. -/
def pale : TaggedFile :=
  TaggedFile.undecided "y" "" "" [] "y" ⟨"2"⟩

/-- Two rules of one plain name, each of which numbers its files in its own way. -/
def variants : Batch where
  namer :=
    ⟨[⟨⟨[⟨[.tag "dark"]⟩]⟩, formatOf (markedFormat minus)⟩,
      ⟨⟨[⟨[.all]⟩]⟩, formatOf (markedFormat plus)⟩], []⟩
  resolver := GroupTable.empty.resolver
  options := ⟨true, false, false⟩
  files := [dark, pale]

/-- Each of the two files has a name of its own or a lent one. -/
theorem outputName_of_ends_name_variants :
    let outcomes := [{ dark with outputName := "a+1" }, { pale with outputName := "a+2" }]
    let ledger : Ledger := ⟨[⟨Path.empty, "a", 2, ⟨"1"⟩⟩]⟩
    (variants.files.Pairwise fun left right => left.location.sameAs right.location = false) ∧
      variants.name.ends Ledger.empty = (.ok outcomes, ledger) ∧
      List.Forall₂ (fun file outcome => outcome.outputName = file.outputName ∨
        variants.OwnName file outcome.outputName ∨ variants.LentName file outcome.outputName)
        variants.files outcomes := by
  intro outcomes ledger
  have distinct : variants.files.Pairwise fun left right =>
      left.location.sameAs right.location = false := of_decide_eq_true (by cbv)
  have ended : variants.name.ends Ledger.empty = (.ok outcomes, ledger) := by cbv
  exact ⟨distinct, ended, (outputName_of_ends_name distinct ended).1⟩

/-- The first file is numbered as the rule of the second one says, which is not its own rule. -/
theorem not_ownName_variants :
    (variants.files.Pairwise fun left right => left.location.sameAs right.location = false) ∧
      (variants.name.ends Ledger.empty).1 =
        .ok [{ dark with outputName := "a+1" }, { pale with outputName := "a+2" }] ∧
      ¬variants.OwnName dark "a+1" ∧ variants.LentName dark "a+1" := by
  have product : variants.product? dark = some (formatOf (markedFormat minus), "a") := by cbv
  have productOther : variants.product? pale = some (formatOf (markedFormat plus), "a") := by cbv
  have picks : variants.resolver.PicksFirst := GroupTable.empty.picksFirst_resolver
  refine ⟨of_decide_eq_true (by cbv), by cbv, ?_, ?_⟩
  · rintro ⟨format, chosen, named⟩
    rcases findFormat_and_nameAlone_of_product? product with ⟨own, alone⟩
    have same := chosen.symm.trans own
    cases same
    rcases named with plain | ⟨number, -, numbered⟩
    · exact absurd (Except.ok.inj (alone.symm.trans plain)) (by decide)
    · rw [result_nameNumbered_formatOf _ picks] at numbered
      have value := congrArg String.toList (eq_of_outcome_eq_ok numbered)
      simp [valueOf, Template.Grammar.numbered, markedFormat, minus, SpanItem.numbered, Item.value,
        Simple.value] at value
  · exact ⟨pale, by simp [variants], _, _, _, product, productOther, by cbv, by cbv⟩

end Variants

end Batch

end TagOrganizer
