import Mathlib
import TagOrganizer.Proofs.Placement.Chain
import TagOrganizer.Proofs.Placement.Walk
import TagOrganizer.Proofs.Template.Result

/-!
# The best placement

The walk through the movement tree finds the first chain that ends at a terminal rule, and without
such a chain the leading one. The proof goes along the walk: what is known about the rules that have
been tried is extended rule by rule (`Best.append`), and what is known about the sublevels of a rule
is carried up to the rule (`best_of_sublevels`).
-/

namespace TagOrganizer

namespace Placement

variable {file : TaggedFile} {resolver : Resolver}

/-- A placement that is as good as some rules allow. -/
inductive Best (file : TaggedFile) (resolver : Resolver) (rules : List MovementRule) :
    Placement → Prop where
  | whole {positions : List Nat} {nodes : List MovementRule} {segments : List Path}
      (chain : FirstTerminalChain file resolver rules positions nodes)
      (evaluated : Segments file resolver nodes segments) :
      Best file resolver rules ⟨true, Path.joinAll segments⟩
  | part {rule : MovementRule} {nodes : List MovementRule} {segments : List Path}
      (incomplete : ∀ positions nodes, ¬TerminalChain file resolver rules positions nodes)
      (leading : Leading file resolver rules (rule :: nodes))
      (evaluated : Segments file resolver (rule :: nodes) segments)
      (filled : (Path.joinAll segments).isEmpty = false) :
      Best file resolver rules ⟨false, Path.joinAll segments⟩
  | nowhere (unmatched : ∀ rule ∈ rules, ¬Applies file resolver rule) :
      Best file resolver rules miss

theorem ofRule_eq_ok {rule : MovementRule} {found : Placement}
    (walked : (ofRule file resolver rule).result = .ok found) :
    (¬Applies file resolver rule ∧ found = miss) ∨
      (Applies file resolver rule ∧ ∃ segment,
        (segmentOf file resolver rule.subfolder).result = .ok segment ∧
          ((rule.isTerminal = true ∧ found = ⟨true, segment⟩) ∨
            (rule.isTerminal = false ∧ ∃ below,
              (bestOf file resolver none rule.sublevels).result = .ok below ∧
                found = ⟨below.complete, joinSegment segment below.path⟩))) := by
  rcases rule with ⟨filter, subfolder, sublevels⟩
  simp only [ofRule, Evaluation.result_bind] at walked
  rcases Except.bind_eq_ok_iff.1 walked with ⟨holds, filtered, walked⟩
  cases holds with
  | false =>
      left
      simp only [Bool.false_eq_true, if_false, Evaluation.result_pure] at walked
      refine ⟨?_, by cases walked; rfl⟩
      simp [Applies, MovementRule.filter, filtered]
  | true =>
      right
      simp only [if_true, Evaluation.result_bind] at walked
      rcases Except.bind_eq_ok_iff.1 walked with ⟨segment, evaluated, walked⟩
      refine ⟨filtered, segment, evaluated, ?_⟩
      by_cases terminal : (sublevels.isEmpty || subfolder.isEmpty) = true
      · left
        rw [if_pos terminal, Evaluation.result_pure] at walked
        exact ⟨terminal, by cases walked; rfl⟩
      · right
        rw [if_neg terminal, Evaluation.result_bind] at walked
        rcases Except.bind_eq_ok_iff.1 walked with ⟨below, descended, walked⟩
        have inner : (MovementRule.level filter subfolder sublevels).isTerminal = false :=
          Bool.eq_false_iff.2 terminal
        exact ⟨inner, below, descended, by cases walked; rfl⟩

theorem segment_filled {rule : MovementRule} {segment : Path} (inner : rule.isTerminal = false)
    (evaluated : (segmentOf file resolver rule.subfolder).result = .ok segment) :
    segment.isEmpty = false := by
  have named : rule.subfolder.isEmpty = false := by
    simp only [MovementRule.isTerminal, Bool.or_eq_false_iff] at inner
    exact inner.2
  simp only [segmentOf, named, Bool.false_eq_true, if_false, Evaluation.result_bind] at evaluated
  rcases Except.bind_eq_ok_iff.1 evaluated with ⟨name, produced, pathed⟩
  cases pathed
  exact Path.isEmpty_eq_false_iff.2 (Template.nameAlone_ne_empty produced)

theorem incomplete_append {front back : List MovementRule}
    (incompleteFront : ∀ positions nodes, ¬TerminalChain file resolver front positions nodes)
    (incompleteBack : ∀ positions nodes, ¬TerminalChain file resolver back positions nodes)
    (positions : List Nat) (nodes : List MovementRule) :
    ¬TerminalChain file resolver (front ++ back) positions nodes := by
  intro chain
  cases positions with
  | nil => exact chain.positions_ne_nil rfl
  | cons position positions =>
      rcases terminalChain_append_iff.1 chain with ⟨-, inFront⟩ | ⟨-, inBack⟩
      · exact incompleteFront _ _ inFront
      · exact incompleteBack _ _ inBack

theorem incomplete_of_unmatched {rules : List MovementRule}
    (unmatched : ∀ rule ∈ rules, ¬Applies file resolver rule) (positions : List Nat)
    (nodes : List MovementRule) : ¬TerminalChain file resolver rules positions nodes := by
  intro chain
  cases positions with
  | nil => exact chain.positions_ne_nil rfl
  | cons position positions =>
      rcases terminalChain_cons_iff.1 chain with ⟨rule, present, applies, -⟩
      exact unmatched rule (List.mem_of_getElem? present) applies

/-- Where a placement is not complete no chain ends at a terminal rule. -/
theorem Best.incomplete {rules : List MovementRule} {path : Path}
    (best : Best file resolver rules ⟨false, path⟩) (positions : List Nat)
    (nodes : List MovementRule) : ¬TerminalChain file resolver rules positions nodes := by
  cases best with
  | part incomplete _ _ _ => exact incomplete positions nodes
  | nowhere unmatched => exact incomplete_of_unmatched unmatched positions nodes

theorem Best.unmatched {rules : List MovementRule} {path : Path} (empty : path.isEmpty = true)
    (best : Best file resolver rules ⟨false, path⟩) :
    ∀ rule ∈ rules, ¬Applies file resolver rule := by
  cases best with
  | part _ _ _ filled => simp [filled] at empty
  | nowhere unmatched => exact unmatched

/-- Among rules in front of which no chain ends at a terminal rule, the first chain stays first. -/
theorem FirstTerminalChain.shift {front middle back nodes : List MovementRule} {position : Nat}
    {positions : List Nat}
    (incomplete : ∀ positions nodes, ¬TerminalChain file resolver front positions nodes)
    (chain : FirstTerminalChain file resolver middle (position :: positions) nodes) :
    FirstTerminalChain file resolver (front ++ middle ++ back)
      ((front.length + position) :: positions) nodes := by
  have within : position < middle.length := by
    rcases terminalChain_cons_iff.1 chain.toTerminalChain with ⟨rule, present, -⟩
    exact (List.getElem?_eq_some_iff.1 present).1
  refine ⟨?_, ?_⟩
  · rw [List.append_assoc]
    apply terminalChain_append_iff.2
    right
    refine ⟨by omega, terminalChain_append_iff.2 (Or.inl ⟨by omega, ?_⟩)⟩
    rw [Nat.add_sub_cancel_left]
    exact chain.toTerminalChain
  · intro otherPositions otherNodes other
    cases otherPositions with
    | nil => exact absurd rfl other.positions_ne_nil
    | cons otherPosition otherPositions =>
        rw [List.append_assoc] at other
        rcases terminalChain_append_iff.1 other with ⟨-, inFront⟩ | ⟨behind, other⟩
        · exact absurd inFront (incomplete _ _)
        · rcases terminalChain_append_iff.1 other with ⟨-, inMiddle⟩ | ⟨later, -⟩
          · rcases chain.first _ _ inMiddle with same | earlier
            · left
              rw [List.cons.injEq] at same ⊢
              exact ⟨by omega, same.2⟩
            · right
              rw [List.cons_lt_cons_iff] at earlier ⊢
              rcases earlier with less | ⟨same, earlier⟩
              · exact Or.inl (by omega)
              · exact Or.inr ⟨by omega, earlier⟩
          · right
            rw [List.cons_lt_cons_iff]
            left
            omega

/-- The leading chain below the first rule that applies goes on from that rule. -/
theorem Leading.descend {rule : MovementRule} {nodes : List MovementRule}
    (leading : Leading file resolver rule.sublevels nodes)
    (applies : Applies file resolver rule) (after : List MovementRule) :
    Leading file resolver (rule :: after) (rule :: nodes) := by
  have unmatched : ∀ earlier ∈ [], ¬Applies file resolver earlier := by simp
  simpa using @Leading.take file resolver [] after nodes rule unmatched applies leading

theorem Leading.append {front nodes : List MovementRule} {rule : MovementRule}
    (leading : Leading file resolver front (rule :: nodes)) (back : List MovementRule) :
    Leading file resolver (front ++ back) (rule :: nodes) := by
  cases leading with
  | take unmatched applies rest =>
      rw [List.append_assoc, List.cons_append]
      exact Leading.take unmatched applies rest

theorem Leading.prepend {front back nodes : List MovementRule} {rule : MovementRule}
    (unmatchedFront : ∀ rule ∈ front, ¬Applies file resolver rule)
    (leading : Leading file resolver back (rule :: nodes)) :
    Leading file resolver (front ++ back) (rule :: nodes) := by
  cases leading with
  | take unmatched applies rest =>
      rw [← List.append_assoc]
      refine Leading.take ?_ applies rest
      intro earlier present
      rcases List.mem_append.1 present with inFront | inBack
      · exact unmatchedFront earlier inFront
      · exact unmatched earlier inBack

/-- A complete placement of one rule is the best one behind rules that give no complete one. -/
theorem Best.whole_behind {front back : List MovementRule} {rule : MovementRule} {path : Path}
    (incomplete : ∀ positions nodes, ¬TerminalChain file resolver front positions nodes)
    (best : Best file resolver [rule] ⟨true, path⟩) :
    Best file resolver (front ++ rule :: back) ⟨true, path⟩ := by
  cases best with
  | @whole positions nodes segments chain evaluated =>
      cases positions with
      | nil => exact absurd rfl chain.positions_ne_nil
      | cons position positions =>
          rw [← List.singleton_append, ← List.append_assoc]
          exact Best.whole (chain.shift incomplete) evaluated

/-- A partial placement is kept whatever other partial one comes behind it. -/
theorem Best.part_before {front back : List MovementRule} {path other : Path}
    (filled : path.isEmpty = false) (best : Best file resolver front ⟨false, path⟩)
    (later : Best file resolver back ⟨false, other⟩) :
    Best file resolver (front ++ back) ⟨false, path⟩ := by
  cases best with
  | part incomplete leading evaluated filled =>
      exact Best.part (incomplete_append incomplete later.incomplete) (leading.append back)
        evaluated filled
  | nowhere unmatched => simp [Path.empty, Path.isEmpty] at filled

/-- Behind rules that do not apply the best placement is that of the other rules. -/
theorem Best.behind_unmatched {front back : List MovementRule} {path : Path}
    (unmatched : ∀ rule ∈ front, ¬Applies file resolver rule)
    (best : Best file resolver back ⟨false, path⟩) :
    Best file resolver (front ++ back) ⟨false, path⟩ := by
  cases best with
  | part incomplete leading evaluated filled =>
      exact Best.part (incomplete_append (incomplete_of_unmatched unmatched) incomplete)
        (leading.prepend unmatched) evaluated filled
  | nowhere unmatchedBack =>
      apply Best.nowhere
      intro rule present
      rcases List.mem_append.1 present with inFront | inBack
      · exact unmatched rule inFront
      · exact unmatchedBack rule inBack

theorem best_of_terminal {rule : MovementRule} {segment : Path}
    (applies : Applies file resolver rule) (terminal : rule.isTerminal = true)
    (evaluated : (segmentOf file resolver rule.subfolder).result = .ok segment) :
    Best file resolver [rule] ⟨true, segment⟩ := by
  have joined : Path.joinAll [segment] = segment := by
    cases empty : segment.isEmpty with
    | true => rw [Path.joinAll_cons_of_isEmpty empty, Path.joinAll_nil, Path.isEmpty_iff.1 empty]
    | false => rw [Path.joinAll_cons empty, Path.joinAll_nil, Path.isEmpty_empty, if_pos rfl]
  have chain : TerminalChain file resolver [rule] [0] [rule] :=
    terminalChain_singleton_iff.2 ⟨applies, Or.inl ⟨terminal, rfl, rfl⟩⟩
  rw [← joined]
  refine Best.whole ⟨chain, ?_⟩ (List.Forall₂.cons evaluated List.Forall₂.nil)
  intro otherPositions otherNodes other
  rcases terminalChain_singleton_iff.1 other with ⟨-, ⟨-, rfl, -⟩ | ⟨inner, -⟩⟩
  · exact Or.inl rfl
  · simp [terminal] at inner

theorem best_of_sublevels {rule : MovementRule} {segment : Path} {below : Placement}
    (applies : Applies file resolver rule) (inner : rule.isTerminal = false)
    (evaluated : (segmentOf file resolver rule.subfolder).result = .ok segment)
    (best : Best file resolver rule.sublevels below) :
    Best file resolver [rule] ⟨below.complete, joinSegment segment below.path⟩ := by
  have filled := segment_filled inner evaluated
  have joined (segments : List Path) : joinSegment segment (Path.joinAll segments) =
      Path.joinAll (segment :: segments) := (Path.joinAll_cons filled segments).symm
  -- A terminal chain below the rule is one below its sublevels.
  have lowered {positions : List Nat} {nodes : List MovementRule}
      (chain : TerminalChain file resolver [rule] positions nodes) :
      ∃ lower rest, positions = 0 :: lower ∧
        TerminalChain file resolver rule.sublevels lower rest := by
    rcases terminalChain_singleton_iff.1 chain with
      ⟨-, ⟨terminal, -⟩ | ⟨-, lower, rest, rfl, -, below⟩⟩
    · simp [inner] at terminal
    · exact ⟨lower, rest, rfl, below⟩
  have incomplete (missing : ∀ positions nodes,
      ¬TerminalChain file resolver rule.sublevels positions nodes)
      (positions : List Nat) (nodes : List MovementRule) :
      ¬TerminalChain file resolver [rule] positions nodes := by
    intro chain
    rcases lowered chain with ⟨lower, rest, -, below⟩
    exact missing lower rest below
  cases best with
  | @whole positions nodes segments chain below =>
      have descended : TerminalChain file resolver [rule] (0 :: positions) (rule :: nodes) :=
        terminalChain_singleton_iff.2
          ⟨applies, Or.inr ⟨inner, positions, nodes, rfl, rfl, chain.toTerminalChain⟩⟩
      simp only [joined]
      refine Best.whole ⟨descended, ?_⟩ (List.Forall₂.cons evaluated below)
      intro otherPositions otherNodes other
      rcases lowered other with ⟨lower, rest, rfl, otherBelow⟩
      rcases chain.first _ _ otherBelow with same | earlier
      · exact Or.inl (by rw [same])
      · exact Or.inr (List.cons_lt_cons_iff.2 (Or.inr ⟨rfl, earlier⟩))
  | @part lower nodes segments missing leading below _ =>
      simp only [joined]
      exact Best.part (incomplete missing) (leading.descend applies [])
        (List.Forall₂.cons evaluated below) (Path.isEmpty_joinAll_cons filled segments)
  | nowhere unmatched =>
      have alone : joinSegment segment miss.path = Path.joinAll [segment] := joined []
      rw [alone]
      exact Best.part (incomplete (incomplete_of_unmatched unmatched))
        ((Leading.stop unmatched).descend applies [])
        (List.Forall₂.cons evaluated List.Forall₂.nil) (Path.isEmpty_joinAll_cons filled [])

mutual

theorem best_of_ofRule (rule : MovementRule) {found : Placement}
    (walked : (ofRule file resolver rule).result = .ok found) :
    Best file resolver [rule] found := by
  rcases ofRule_eq_ok walked with ⟨unmatched, rfl⟩ | ⟨applies, segment, evaluated, outcome⟩
  · exact Best.nowhere (by simpa using unmatched)
  · rcases outcome with ⟨terminal, rfl⟩ | ⟨inner, below, descended, rfl⟩
    · exact best_of_terminal applies terminal evaluated
    · match rule with
      | .level filter subfolder sublevels =>
          have untried : Best file resolver [] ⟨false, (none : Option Path).getD Path.empty⟩ :=
            Best.nowhere (by simp)
          exact best_of_sublevels applies inner evaluated
            (best_of_bestOf sublevels untried nofun descended)

/--
A walk from a list of rules on gives the best placement, if the best one of the rules in front of
them is the one that has been kept.
-/
theorem best_of_bestOf (rules : List MovementRule) {front : List MovementRule}
    {kept : Option Path} {placement : Placement}
    (tried : Best file resolver front ⟨false, kept.getD Path.empty⟩)
    (filled : ∀ path, kept = some path → path.isEmpty = false)
    (walked : (bestOf file resolver kept rules).result = .ok placement) :
    Best file resolver (front ++ rules) placement := by
  match rules with
  | [] =>
      rw [List.append_nil]
      cases kept with
      | none => cases walked; exact tried
      | some path => cases walked; exact tried
  | rule :: rules =>
      simp only [bestOf, Evaluation.result_bind] at walked
      rcases Except.bind_eq_ok_iff.1 walked with ⟨⟨complete, path⟩, found, chosen⟩
      have best := best_of_ofRule rule found
      cases complete with
      | true =>
          cases chosen
          exact best.whole_behind tried.incomplete
      | false =>
          rw [List.append_cons]
          simp only [Bool.false_eq_true, if_false] at chosen
          split at chosen
          · rename_i first
            rw [Bool.and_eq_true, Option.isNone_iff_eq_none, Bool.not_eq_true'] at first
            rcases first with ⟨rfl, pathed⟩
            have extended : Best file resolver (front ++ [rule])
                ⟨false, (some path).getD Path.empty⟩ :=
              best.behind_unmatched (tried.unmatched rfl)
            exact best_of_bestOf rules extended (by simpa using pathed) chosen
          · rename_i later
            refine best_of_bestOf rules ?_ filled chosen
            cases kept with
            | none =>
                have empty : path = Path.empty := by
                  simpa [Path.isEmpty_iff] using later
                subst empty
                exact best.behind_unmatched (tried.unmatched rfl)
            | some path => exact tried.part_before (filled path rfl) best

end

/-- What is found for a file is the best that the rules allow. -/
theorem best_of_find {rules : List MovementRule} {placement : Placement}
    (found : (find file rules resolver).result = .ok placement) :
    Best file resolver rules placement := by
  rw [result_find] at found
  have walked : (bestOf file resolver none rules).result = .ok placement := by
    split at found
    · cases found
    · exact found
  have untried : Best file resolver [] ⟨false, (none : Option Path).getD Path.empty⟩ :=
    Best.nowhere (by simp)
  exact best_of_bestOf rules untried nofun walked

/-- A file goes where its placement says, and fails exactly if it got nowhere. -/
theorem result_placeFile (rules : List MovementRule) (resolver : Resolver) (file : TaggedFile) :
    (placeFile rules resolver file).result =
      (find file rules resolver).result.map fun placement =>
        { file with destination := placement.path, moveFailed := placement.isMiss } := by
  unfold placeFile
  rw [Evaluation.result_bind]
  cases (find file rules resolver).result with
  | error error => rfl
  | ok placement => by_cases miss : placement.isMiss = true <;> simp [miss]

/-- In a batch each file goes where its placement says. -/
theorem forall₂_of_run {files : List TaggedFile} {rules : List MovementRule} {report : Report}
    (placed : (run files rules resolver).result = .ok report) :
    List.Forall₂
      (fun before after => ∃ placement, (find before rules resolver).result = .ok placement ∧
        after = { before with destination := placement.path, moveFailed := placement.isMiss })
      files report.files := by
  unfold run at placed
  rw [Evaluation.result_bind] at placed
  rcases Except.bind_eq_ok_iff.1 placed with ⟨moved, evaluated, reported⟩
  cases reported
  rw [Evaluation.result_mapM] at evaluated
  apply (Except.mapM_eq_ok_iff.1 evaluated).imp
  intro before after moved
  rw [result_placeFile] at moved
  cases found : (find before rules resolver).result with
  | error error => simp [found, Except.map] at moved
  | ok placement =>
      rw [found, Except.map_ok] at moved
      exact ⟨placement, rfl, (Except.ok.inj moved).symm⟩

/--
The walk through the movement tree is complete iff some chain ends at a terminal rule, and then
gives the path of the first such chain. Otherwise it gives the path of the leading chain, if a rule
of the top level applies, and misses if none does. Files are sent to the places that are found.
-/
theorem find_first_terminal_or_leading {file : TaggedFile} {rules : List MovementRule}
    {resolver : Resolver} {placement : Placement}
    (found : (find file rules resolver).result = .ok placement) :
    (placement.complete = true ↔
      ∃ positions nodes, TerminalChain file resolver rules positions nodes) ∧
    (placement.complete = true →
      ∃ positions nodes segments, FirstTerminalChain file resolver rules positions nodes ∧
        Segments file resolver nodes segments ∧ placement.path = Path.joinAll segments) ∧
    (placement.complete = false → (∃ rule ∈ rules, Applies file resolver rule) →
      ∃ nodes segments, Leading file resolver rules nodes ∧
        Segments file resolver nodes segments ∧ placement.path = Path.joinAll segments ∧
        placement.isMiss = false) ∧
    ((∀ rule ∈ rules, ¬Applies file resolver rule) →
      placement.complete = false ∧ placement.path = Path.empty) ∧
    (∀ batch report, (run batch rules resolver).result = .ok report →
      List.Forall₂
        (fun before after => ∃ placed, (find before rules resolver).result = .ok placed ∧
          after = { before with destination := placed.path, moveFailed := placed.isMiss })
        batch report.files) := by
  have batches : ∀ batch report, (run batch rules resolver).result = .ok report → _ :=
    fun _ _ placed => forall₂_of_run placed
  cases best_of_find found with
  | @whole positions nodes segments chain evaluated =>
      refine ⟨⟨fun _ => ⟨positions, nodes, chain.toTerminalChain⟩, fun _ => rfl⟩,
        fun _ => ⟨positions, nodes, segments, chain, evaluated, rfl⟩, ?_, ?_, batches⟩
      · intro impossible
        cases impossible
      · intro unmatched
        exact absurd chain.toTerminalChain (incomplete_of_unmatched unmatched positions nodes)
  | @part rule nodes segments incomplete leading evaluated filled =>
      refine ⟨⟨nofun, ?_⟩, nofun,
        fun _ _ => ⟨rule :: nodes, segments, leading, evaluated, rfl, ?_⟩, ?_, batches⟩
      · rintro ⟨positions, chained, chain⟩
        exact absurd chain (incomplete positions chained)
      · simp [isMiss, filled]
      · intro unmatched
        cases leading with
        | take _ applies _ => exact absurd applies (unmatched rule (by simp))
  | nowhere unmatched =>
      refine ⟨⟨nofun, ?_⟩, nofun,
        ?_, fun _ => ⟨rfl, rfl⟩, batches⟩
      · rintro ⟨positions, chained, chain⟩
        exact absurd chain (incomplete_of_unmatched unmatched positions chained)
      · rintro - ⟨rule, present, applies⟩
        exact absurd applies (unmatched rule present)

/-- A rule with a sublevel that applies to no file without the tag, and a terminal one behind it. -/
def twoBranches : List MovementRule :=
  [.level ⟨[⟨[.tag "ale"]⟩]⟩ "Ale" [.level ⟨[⟨[.tag "cold"]⟩]⟩ "Cold" []],
   .level ⟨[⟨[.tag "new"]⟩]⟩ "New" []]

/-- The terminal rule counts for a file that gets stuck at the rule in front of it. -/
theorem find_twoBranches :
    let file := TaggedFile.undecided "x" "[ale new]" "" ["ale", "new"] "x[ale new]" ⟨"/x"⟩
    let resolver := GroupTable.empty.resolver
    (find file twoBranches resolver).result = .ok ⟨true, ⟨"New"⟩⟩ ∧
      ∃ positions nodes segments, FirstTerminalChain file resolver twoBranches positions nodes ∧
        Segments file resolver nodes segments ∧ (⟨"New"⟩ : Path) = Path.joinAll segments := by
  intro file resolver
  have found : (find file twoBranches resolver).result = .ok ⟨true, ⟨"New"⟩⟩ := by cbv
  exact ⟨found, (find_first_terminal_or_leading found).2.1 rfl⟩

end Placement

end TagOrganizer
