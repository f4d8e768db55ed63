import Mathlib
import TagOrganizer.Proofs.Regex.Spans
import TagOrganizer.Regex.Automaton

/-!
# The automaton of an expression

An automaton that does in some of its states what an expression asks for (`Embeds`) comes from the
entry to the exit of these states exactly from and to the places between which the expression
matches. One half is that all that the expression matches is a way (`Embeds.leads`); the other is
that whoever enters these states leaves them through the exit, having matched the expression
(`Embeds.passes`). Both halves follow the expression, and for a repetition its rounds: the states of
the rounds lie side by side, and each round leads to where the next one is entered. A step from one
of the states leads to one of them or to the exit (`confined_node`).
-/

namespace TagOrganizer

namespace Regex

/-- Where a node leads to. -/
inductive Goes : Node → Place → Nat × Place → Prop where
  | read {set : CharSet} {next : Nat} {place later : Place} {char : Char}
      (first : char ∈ place.rest.head?) (has : set.has char = true)
      (passes : place.next? = some later) : Goes (.read set next) place (next, later)
  | check {condition : Look} {next : Nat} {place : Place} (holds : condition.holds place = true) :
      Goes (.check condition next) place (next, place)
  | first {first second : Nat} {place : Place} : Goes (.fork first second) place (first, place)
  | second {first second : Nat} {place : Place} : Goes (.fork first second) place (second, place)
  | enter {name : Option String} {next : Nat} {place : Place} :
      Goes (.enter name next) place (next, place)
  | leave {name : Option String} {next : Nat} {place : Place} :
      Goes (.leave name next) place (next, place)
  | jump {next : Nat} {place : Place} : Goes (.jump next) place (next, place)

/-- One step of an automaton that is given by its nodes. -/
def Step (program : Nat → Node) (here there : Nat × Place) : Prop :=
  Goes (program here.1) here.2 there

/-- Whether an automaton does in the states from `entry` on what an expression asks for. -/
def Embeds (program : Nat → Node) (regex : Regex) (entry exit : Nat) : Prop :=
  ∀ state, entry ≤ state → state < entry + regex.stateCount →
    program state = regex.node entry exit state

theorem stateCount_pos (regex : Regex) : 0 < regex.stateCount := by
  cases regex with
  | concat first second =>
      have := stateCount_pos first
      simp only [stateCount]
      omega
  | repetition body least most greedy =>
      have := stateCount_pos body
      simp only [stateCount]
      repeat' split
      all_goals omega
  | _ =>
      simp only [stateCount]
      omega

/-! ### What the states of an expression do -/

section Embeds

variable {program : Nat → Node} {first second body : Regex} {entry exit : Nat}

theorem Embeds.at_entry {regex : Regex} (embeds : Embeds program regex entry exit) :
    program entry = regex.node entry exit entry :=
  embeds entry (Nat.le_refl _) (by have := regex.stateCount_pos; omega)

theorem Embeds.of_concat (embeds : Embeds program (concat first second) entry exit) :
    Embeds program first entry (entry + first.stateCount) ∧
      Embeds program second (entry + first.stateCount) exit := by
  constructor
  · intro state from_ below
    rw [embeds state from_ (by simp only [stateCount]; omega), node, if_pos below]
  · intro state from_ below
    rw [embeds state (by omega) (by simp only [stateCount]; omega), node, if_neg (by omega)]

theorem Embeds.of_alternate (embeds : Embeds program (alternate first second) entry exit) :
    program entry = .fork (entry + 1) (entry + 1 + first.stateCount) ∧
      Embeds program first (entry + 1) exit ∧
      Embeds program second (entry + 1 + first.stateCount) exit := by
  refine ⟨by rw [embeds.at_entry, node, if_pos rfl], ?_, ?_⟩
  · intro state from_ below
    rw [embeds state (by omega) (by simp only [stateCount]; omega), node, if_neg (by omega),
      if_pos below]
  · intro state from_ below
    rw [embeds state (by omega) (by simp only [stateCount]; omega), node, if_neg (by omega),
      if_neg (by omega)]

theorem Embeds.of_group {number : Nat} {name : Option String}
    (embeds : Embeds program (group number name body) entry exit) :
    program entry = .enter name (entry + 2) ∧ program (entry + 1) = .leave name exit ∧
      Embeds program body (entry + 2) (entry + 1) := by
  refine ⟨by rw [embeds.at_entry, node, if_pos rfl], ?_, ?_⟩
  · rw [embeds (entry + 1) (by omega) (by simp only [stateCount]; omega), node,
      if_neg (by omega), if_pos rfl]
  · intro state from_ below
    rw [embeds state (by omega) (by simp only [stateCount]; omega), node, if_neg (by omega),
      if_neg (by omega)]

/-- The state of the loop is the entry where each round takes some character. -/
theorem Embeds.of_star_neverEmpty {greedy : Bool} (filled : body.neverEmpty = true)
    (embeds : Embeds program (repetition body 0 none greedy) entry exit) :
    program entry = .again greedy (entry + 1) exit ∧ Embeds program body (entry + 1) entry := by
  constructor
  · rw [embeds.at_entry, node]
    simp [filled]
  · intro state from_ below
    rw [embeds state (by omega) (by simp [stateCount, filled]; omega), node]
    simp only [filled, if_true]
    rw [if_neg (by omega)]

theorem Embeds.of_star {greedy : Bool} (filled : body.neverEmpty = false)
    (embeds : Embeds program (repetition body 0 none greedy) entry exit) :
    program entry = .again greedy (entry + 2) exit ∧
      program (entry + 1) = .again greedy (entry + 2) exit ∧
      Embeds program body (entry + 2) (entry + 1) := by
  refine ⟨?_, ?_, ?_⟩
  · rw [embeds.at_entry, node]
    simp [filled]
  · have positive := body.stateCount_pos
    rw [embeds (entry + 1) (by omega) (by simp [stateCount, filled]; omega), node]
    simp [filled]
  · intro state from_ below
    rw [embeds state (by omega) (by simp [stateCount, filled]; omega), node]
    simp only [filled]
    simp only [Bool.false_eq_true, if_false, if_true]
    rw [if_neg (by omega)]

/-- Where a state lies in one of several rounds of the same size. -/
theorem round_of_state {start size index state : Nat} (from_ : start + index * size ≤ state)
    (below : state < start + index * size + size) :
    start + (state - start) / size * size = start + index * size := by
  have quotient : (state - start) / size = index := by
    apply Nat.div_eq_of_lt_le
    · omega
    · rw [Nat.succ_mul]
      omega
  rw [quotient]

theorem mul_size_le {index count : Nat} (among : index < count) (size : Nat) :
    index * size + size ≤ count * size := by
  rw [← Nat.succ_mul]
  exact Nat.mul_le_mul_right size among

/-- The rounds that have to be; the last of them is gone through again and again. -/
theorem Embeds.of_atLeast {least : Nat} {greedy : Bool}
    (embeds : Embeds program (repetition body (least + 1) none greedy) entry exit) :
    (∀ index < least + 1, Embeds program body (entry + index * body.stateCount)
        (entry + (index + 1) * body.stateCount)) ∧
      program (entry + (least + 1) * body.stateCount) =
        .again greedy (entry + least * body.stateCount) exit := by
  constructor
  · intro index among state from_ below
    have bound := mul_size_le among body.stateCount
    rw [embeds state (by omega) (by simp [stateCount]; omega), node]
    simp only [Nat.add_one_ne_zero, if_false]
    rw [if_neg (by omega), round_of_state from_ below, Nat.succ_mul, Nat.add_assoc]
  · have back : entry + (least + 1) * body.stateCount - body.stateCount =
        entry + least * body.stateCount := by
      rw [Nat.succ_mul]
      omega
    rw [embeds _ (by omega) (by simp [stateCount]), node]
    simp [back]

/-- A round at the end of a repetition leads to its exit. -/
theorem node_atMost {least most size optional stop : Nat} {exitAt : Nat → Nat} (greedy : Bool)
    (isSize : body.stateCount = size) (isOptional : optional = entry + 1 + least * size)
    (isStop : stop = optional + (most - least) * (1 + size))
    (isExitAt : exitAt = fun place => if place < stop then place else exit) (state : Nat) :
    (repetition body least (some most) greedy).node entry exit state =
      if state = entry then .jump (exitAt (entry + 1))
      else if state < optional then
        body.node (entry + 1 + (state - (entry + 1)) / size * size)
          (exitAt (entry + 1 + (state - (entry + 1)) / size * size + size)) state
      else if state = optional + (state - optional) / (1 + size) * (1 + size) then
        .again greedy (optional + (state - optional) / (1 + size) * (1 + size) + 1) exit
      else
        body.node (optional + (state - optional) / (1 + size) * (1 + size) + 1)
          (exitAt (optional + (state - optional) / (1 + size) * (1 + size) + 1 + size)) state := by
  subst isExitAt isStop isOptional isSize
  rw [← Nat.sub_sub]
  rfl

/-- How the rounds of a repetition lie that has an end, up to the state `stop`. -/
structure Layout (program : Nat → Node) (body : Regex) (entry exit stop least extra : Nat)
    (greedy : Bool) (stage further begins : Nat → Nat) : Prop where
  jump : program entry = .jump (stage 0)
  /-- A round that has to be leads to the next one. -/
  required : ∀ index < least, Embeds program body (stage index) (stage (index + 1))
  turn : stage least = further 0
  /-- The first round that is left out is the end. -/
  again : ∀ index < extra, program (further index) = .again greedy (begins index) exit
  optional : ∀ index < extra, Embeds program body (begins index) (further (index + 1))
  last : further extra = exit
  stage_within : ∀ index < least, entry ≤ stage index ∧ stage index + body.stateCount ≤ stop
  further_within : ∀ index < extra, entry ≤ further index ∧ further index < stop
  begins_within : ∀ index < extra, entry ≤ begins index ∧ begins index + body.stateCount ≤ stop

theorem Embeds.exists_layout {least most : Nat} {greedy : Bool}
    (embeds : Embeds program (repetition body least (some most) greedy) entry exit) :
    ∃ stage further begins, Layout program body entry exit
      (entry + (repetition body least (some most) greedy).stateCount) least (most - least) greedy
      stage further begins := by
  have positive := body.stateCount_pos
  obtain ⟨size, isSize⟩ : ∃ size, body.stateCount = size := ⟨_, rfl⟩
  obtain ⟨optional, isOptional⟩ : ∃ optional, optional = entry + 1 + least * size := ⟨_, rfl⟩
  obtain ⟨stop, isStop⟩ : ∃ stop, stop = optional + (most - least) * (1 + size) := ⟨_, rfl⟩
  obtain ⟨exitAt, isExitAt⟩ :
      ∃ exitAt : Nat → Nat, exitAt = fun place => if place < stop then place else exit := ⟨_, rfl⟩
  have whole : entry + (repetition body least (some most) greedy).stateCount = stop := by
    simp only [stateCount, isSize]
    omega
  have inside {place : Nat} (below : place < stop) : exitAt place = place := by
    rw [isExitAt]
    exact if_pos below
  have shape := fun state : Nat =>
    node_atMost greedy isSize isOptional isStop isExitAt state
  rw [whole]
  refine ⟨fun index => exitAt (entry + 1 + index * size),
    fun index => exitAt (optional + index * (1 + size)),
    fun index => optional + index * (1 + size) + 1, ?_⟩
  constructor
  case jump =>
    simp only [Nat.zero_mul, Nat.add_zero]
    rw [embeds.at_entry, shape, if_pos rfl]
  case required =>
    intro index among
    have bound := mul_size_le among size
    rw [inside (by omega)]
    intro state from_ below
    rw [isSize] at below
    rw [embeds state (by omega) (by omega), shape, if_neg (by omega), if_pos (by omega),
      round_of_state from_ below, Nat.succ_mul, ← Nat.add_assoc]
  case turn => simp only [Nat.zero_mul, Nat.add_zero, isOptional]
  case again =>
    intro index among
    have bound := mul_size_le among (1 + size)
    have round := round_of_state (Nat.le_refl (optional + index * (1 + size)))
      (show _ < optional + index * (1 + size) + (1 + size) by omega)
    rw [inside (by omega), embeds _ (by omega) (by omega), shape, if_neg (by omega),
      if_neg (by omega), round, if_pos rfl]
  case optional =>
    intro index among state from_ below
    have bound := mul_size_le among (1 + size)
    have next : optional + (index + 1) * (1 + size) = optional + index * (1 + size) + 1 + size := by
      rw [Nat.succ_mul]
      omega
    rw [isSize] at below
    have round := round_of_state (show optional + index * (1 + size) ≤ state by omega)
      (show state < optional + index * (1 + size) + (1 + size) by omega)
    rw [embeds state (by omega) (by omega), shape, if_neg (by omega), if_neg (by omega), round,
      if_neg (by omega), next]
  case last =>
    rw [← isStop, isExitAt]
    exact if_neg (Nat.lt_irrefl _)
  case stage_within =>
    intro index among
    have bound := mul_size_le among size
    rw [inside (by omega)]
    omega
  case further_within =>
    intro index among
    have bound := mul_size_le among (1 + size)
    rw [inside (by omega)]
    omega
  case begins_within =>
    intro index among
    have bound := mul_size_le among (1 + size)
    omega

end Embeds

/-! ### Ways through an automaton -/

theorem goes_again_iff {greedy : Bool} {round exit : Nat} {place : Place} {next : Nat × Place} :
    Goes (.again greedy round exit) place next ↔ next = (round, place) ∨ next = (exit, place) := by
  cases greedy
  · constructor
    · intro goes
      cases goes with
      | first => exact .inr rfl
      | second => exact .inl rfl
    · rintro (rfl | rfl)
      · exact .second
      · exact .first
  · constructor
    · intro goes
      cases goes with
      | first => exact .inl rfl
      | second => exact .inr rfl
    · rintro (rfl | rfl)
      · exact .first
      · exact .second

/-- Whether there is a way from one state to another wherever a relation holds of the places. -/
def Leads (program : Nat → Node) (spans : Place → Place → Prop) (entry exit : Nat) : Prop :=
  ∀ place later, spans place later →
    Relation.ReflTransGen (Step program) (entry, place) (exit, later)

/--
Whether every way from one state to `final` comes by another state after at least one step, and a
relation holds of the places where it sets out and where it comes by.
-/
def Passes (program : Nat → Node) (final : Nat) (spans : Place → Place → Prop)
    (entry exit : Nat) : Prop :=
  ∀ count place stop, Rounds (Step program) count (entry, place) (final, stop) →
    ∃ fewer < count, ∃ later, spans place later ∧
      Rounds (Step program) fewer (exit, later) (final, stop)

section Ways

variable {program : Nat → Node} {spans : Place → Place → Prop} {final entry exit loop round : Nat}
  {count : Nat} {greedy : Bool} {place later stop : Place}

/-- Who is not yet where a way ends takes a step. -/
theorem exists_step (way : Rounds (Step program) count (entry, place) (final, stop))
    (different : final ≠ entry) :
    ∃ fewer next, count = fewer + 1 ∧ Goes (program entry) place next ∧
      Rounds (Step program) fewer next (final, stop) := by
  cases count with
  | zero => exact absurd (Prod.mk.inj way).1 different
  | succ fewer =>
      rcases way with ⟨next, goes, way⟩
      exact ⟨fewer, next, rfl, goes, way⟩

/-! ### Ways there are -/

theorem reaches_loop (again : program loop = .again greedy round exit)
    (inner : Leads program spans round loop) (rounds : Rounds spans count place later) :
    Relation.ReflTransGen (Step program) (loop, place) (exit, later) := by
  induction count generalizing place with
  | zero =>
      cases rounds
      exact .single (by rw [Step, again]; exact goes_again_iff.2 (.inr rfl))
  | succ count ih =>
      rcases rounds with ⟨middle, here, rounds⟩
      have another : Step program (loop, place) (round, place) := by
        rw [Step, again]
        exact goes_again_iff.2 (.inl rfl)
      exact .head another ((inner _ _ here).trans (ih rounds))

theorem reaches_stages (stage : Nat → Nat)
    (inner : ∀ index < count, Leads program spans (stage index) (stage (index + 1)))
    (rounds : Rounds spans count place later) :
    Relation.ReflTransGen (Step program) (stage 0, place) (stage count, later) := by
  induction count generalizing stage place with
  | zero =>
      cases rounds
      exact .refl
  | succ count ih =>
      rcases rounds with ⟨middle, here, rounds⟩
      have others := ih (fun index => stage (index + 1))
        (fun index among => inner (index + 1) (by omega)) rounds
      exact (inner 0 (by omega) _ _ here).trans others

/-- Of the rounds that may be only some are gone through, and the others are left out together. -/
theorem reaches_optional {bound : Nat} {stage begins : Nat → Nat} (within : count ≤ bound)
    (again : ∀ index < bound, program (stage index) = .again greedy (begins index) exit)
    (inner : ∀ index < bound, Leads program spans (begins index) (stage (index + 1)))
    (last : stage bound = exit) (rounds : Rounds spans count place later) :
    Relation.ReflTransGen (Step program) (stage 0, place) (exit, later) := by
  have here : Relation.ReflTransGen (Step program) (stage 0, place) (stage count, later) := by
    apply reaches_stages stage _ rounds
    intro index among place later spans
    have another : Step program (stage index, place) (begins index, place) := by
      rw [Step, again index (by omega)]
      exact goes_again_iff.2 (.inl rfl)
    exact .head another (inner index (by omega) _ _ spans)
  rcases Nat.eq_or_lt_of_le within with rfl | fewer
  · rwa [last] at here
  · apply here.trans (.single _)
    rw [Step, again count fewer]
    exact goes_again_iff.2 (.inr rfl)

/-! ### Ways that have to be taken -/

theorem passes_loop (again : program loop = .again greedy round exit)
    (inner : Passes program final spans round loop) (different : final ≠ loop) :
    Passes program final (fun place later => ∃ count, Rounds spans count place later) loop
      exit := by
  intro count
  induction count using Nat.strong_induction_on with
  | _ count ih =>
      intro place stop way
      rcases exists_step way different with ⟨fewer, next, rfl, goes, way⟩
      rw [again, goes_again_iff] at goes
      rcases goes with rfl | rfl
      · rcases inner _ _ _ way with ⟨fewest, less, middle, here, way⟩
        rcases ih fewest (by omega) _ _ way with ⟨left, smaller, later, ⟨rounds, others⟩, way⟩
        exact ⟨left, by omega, later, ⟨rounds + 1, middle, here, others⟩, way⟩
      · exact ⟨fewer, by omega, place, ⟨0, rfl⟩, way⟩

theorem passes_stages (stage : Nat → Nat) {steps : Nat}
    (inner : ∀ index < count, Passes program final spans (stage index) (stage (index + 1)))
    (way : Rounds (Step program) steps (stage 0, place) (final, stop)) :
    ∃ fewer ≤ steps, ∃ later, Rounds spans count place later ∧
      Rounds (Step program) fewer (stage count, later) (final, stop) := by
  induction count generalizing stage place steps with
  | zero => exact ⟨steps, Nat.le_refl _, place, rfl, way⟩
  | succ count ih =>
      rcases inner 0 (by omega) _ _ _ way with ⟨fewer, less, middle, here, way⟩
      rcases ih (fun index => stage (index + 1))
        (fun index among => inner (index + 1) (by omega)) way with
        ⟨fewest, smaller, later, rounds, way⟩
      exact ⟨fewest, by omega, later, ⟨middle, here, rounds⟩, way⟩

theorem passes_optional (stage begins : Nat → Nat) {steps bound : Nat}
    (again : ∀ index < bound, program (stage index) = .again greedy (begins index) exit)
    (inner : ∀ index < bound, Passes program final spans (begins index) (stage (index + 1)))
    (last : stage bound = exit) (different : ∀ index < bound, final ≠ stage index)
    (way : Rounds (Step program) steps (stage 0, place) (final, stop)) :
    ∃ fewer ≤ steps, ∃ later, (∃ count ≤ bound, Rounds spans count place later) ∧
      Rounds (Step program) fewer (exit, later) (final, stop) := by
  induction bound generalizing stage begins place steps with
  | zero =>
      rw [last] at way
      exact ⟨steps, Nat.le_refl _, place, ⟨0, Nat.le_refl _, rfl⟩, way⟩
  | succ bound ih =>
      rcases exists_step way (different 0 (by omega)) with ⟨fewer, next, rfl, goes, way⟩
      rw [again 0 (by omega), goes_again_iff] at goes
      rcases goes with rfl | rfl
      · rcases inner 0 (by omega) _ _ _ way with ⟨fewest, less, middle, here, way⟩
        rcases ih (fun index => stage (index + 1)) (fun index => begins (index + 1))
          (fun index among => again (index + 1) (by omega))
          (fun index among => inner (index + 1) (by omega)) last
          (fun index among => different (index + 1) (by omega)) way with
          ⟨left, smaller, later, ⟨count, within, rounds⟩, way⟩
        exact ⟨left, by omega, later, ⟨count + 1, by omega, middle, here, rounds⟩, way⟩
      · exact ⟨fewer, by omega, place, ⟨0, by omega, rfl⟩, way⟩

end Ways

/-! ### Where the states of an expression lead to -/

section Confined

variable {state next : Nat} {place later : Place}

/-- A state of one of several rounds of the same size lies in the round that is computed for it. -/
theorem round_bounds {size : Nat} (positive : 0 < size) (start state : Nat)
    (from_ : start ≤ state) :
    start + (state - start) / size * size ≤ state ∧
      state < start + (state - start) / size * size + size := by
  have whole := Nat.div_add_mod (state - start) size
  have rest := Nat.mod_lt (state - start) positive
  rw [Nat.mul_comm] at whole
  omega

theorem round_among {size : Nat} (positive : 0 < size) (start state count : Nat)
    (below : state < start + count * size) (from_ : start ≤ state) :
    start + (state - start) / size * size + size ≤ start + count * size := by
  have among : (state - start) / size < count := by
    rw [Nat.div_lt_iff_lt_mul positive]
    omega
  have bound := mul_size_le among size
  omega

theorem next_of_goes_again {greedy : Bool} {round exit : Nat}
    (goes : Goes (.again greedy round exit) place (next, later)) : next = round ∨ next = exit := by
  rcases goes_again_iff.1 goes with same | same
  · exact .inl (Prod.mk.inj same).1
  · exact .inr (Prod.mk.inj same).1

section Repeated

variable {body : Regex} {least : Nat} {greedy : Bool} {entry exit : Nat}
  (ih : ∀ {entry exit}, entry ≤ state → state < entry + body.stateCount →
    Goes (body.node entry exit state) place (next, later) →
      (entry ≤ next ∧ next < entry + body.stateCount) ∨ next = exit)

include ih

theorem confined_atLeast (from_ : entry ≤ state)
    (below : state < entry + (repetition body least none greedy).stateCount)
    (goes : Goes ((repetition body least none greedy).node entry exit state) place (next, later)) :
    (entry ≤ next ∧ next < entry + (repetition body least none greedy).stateCount) ∨
      next = exit := by
  have positive := body.stateCount_pos
  by_cases required : least = 0
  · cases filled : body.neverEmpty with
    | true =>
        simp only [node, stateCount, required, filled, if_true] at goes below ⊢
        split at goes
        · have := next_of_goes_again goes
          omega
        · have := ih (by omega) (by omega) goes
          omega
    | false =>
        simp only [node, stateCount, required, filled, if_true, Bool.false_eq_true,
          if_false] at goes below ⊢
        split at goes
        · have := next_of_goes_again goes
          omega
        · have := ih (by omega) (by omega) goes
          omega
  · simp only [node, stateCount, required, if_false] at goes below ⊢
    have room : body.stateCount ≤ least * body.stateCount :=
      Nat.le_mul_of_pos_left _ (by omega)
    split at goes
    · have := next_of_goes_again goes
      omega
    · have inRound := round_bounds positive entry state from_
      have among := round_among positive entry state least (by omega) from_
      have := ih inRound.1 inRound.2 goes
      omega

theorem confined_atMost {most : Nat} (from_ : entry ≤ state)
    (below : state < entry + (repetition body least (some most) greedy).stateCount)
    (goes : Goes ((repetition body least (some most) greedy).node entry exit state) place
      (next, later)) :
    (entry ≤ next ∧ next < entry + (repetition body least (some most) greedy).stateCount) ∨
      next = exit := by
  have positive := body.stateCount_pos
  obtain ⟨size, isSize⟩ : ∃ size, body.stateCount = size := ⟨_, rfl⟩
  obtain ⟨optional, isOptional⟩ : ∃ optional, optional = entry + 1 + least * size := ⟨_, rfl⟩
  obtain ⟨stop, isStop⟩ : ∃ stop, stop = optional + (most - least) * (1 + size) := ⟨_, rfl⟩
  obtain ⟨exitAt, isExitAt⟩ :
      ∃ exitAt : Nat → Nat, exitAt = fun place => if place < stop then place else exit := ⟨_, rfl⟩
  have inside (place : Nat) : exitAt place = place ∧ place < stop ∨ exitAt place = exit := by
    rw [isExitAt]
    grind
  rw [node_atMost greedy isSize isOptional isStop isExitAt] at goes
  have whole : entry + (repetition body least (some most) greedy).stateCount = stop := by
    simp only [stateCount, isSize]
    omega
  rw [whole] at below ⊢
  rw [isSize] at ih positive
  split at goes
  · cases goes
    have := inside (entry + 1)
    omega
  · split at goes
    · have inRound := round_bounds positive (entry + 1) state (by omega)
      have among := round_among positive (entry + 1) state least (by omega) (by omega)
      have := ih inRound.1 inRound.2 goes
      have := inside (entry + 1 + (state - (entry + 1)) / size * size + size)
      omega
    · have larger : 0 < 1 + size := by omega
      have inRound := round_bounds larger optional state (by omega)
      have among := round_among larger optional state (most - least) (by omega) (by omega)
      split at goes
      · have := next_of_goes_again goes
        omega
      · have := ih (by omega) (by omega) goes
        have := inside (optional + (state - optional) / (1 + size) * (1 + size) + 1 + size)
        omega

end Repeated

/-- From a state of an expression one comes to a state of the expression or to its exit. -/
theorem confined_node (regex : Regex) {entry exit : Nat} (from_ : entry ≤ state)
    (below : state < entry + regex.stateCount)
    (goes : Goes (regex.node entry exit state) place (next, later)) :
    (entry ≤ next ∧ next < entry + regex.stateCount) ∨ next = exit := by
  induction regex generalizing entry exit with
  | empty =>
      cases goes
      exact .inr rfl
  | one set =>
      cases goes
      exact .inr rfl
  | look condition =>
      cases goes
      exact .inr rfl
  | concat first second ihFirst ihSecond =>
      have positive := second.stateCount_pos
      simp only [node, stateCount] at goes below ⊢
      split at goes
      · have := ihFirst from_ (by omega) goes
        omega
      · have := ihSecond (by omega) (by omega) goes
        omega
  | alternate first second ihFirst ihSecond =>
      have positiveSecond := second.stateCount_pos
      simp only [node, stateCount] at goes below ⊢
      split at goes
      · cases goes <;> omega
      · split at goes
        · have := ihFirst (by omega) (by omega) goes
          omega
        · have := ihSecond (by omega) (by omega) goes
          omega
  | repetition body least most greedy ih =>
      cases most with
      | none => exact confined_atLeast ih from_ below goes
      | some most => exact confined_atMost ih from_ below goes
  | group number name body ih =>
      have positive := body.stateCount_pos
      simp only [node, stateCount] at goes below ⊢
      split at goes
      · cases goes
        omega
      · split at goes
        · cases goes
          omega
        · have := ih (by omega) (by omega) goes
          omega

end Confined

/-! ### Ways through the states of an expression -/

section Expression

variable {program : Nat → Node} {body : Regex} {entry exit final : Nat}

theorem leads_repetition {least : Nat} {most : Option Nat} {greedy : Bool}
    (ih : ∀ {entry exit}, Embeds program body entry exit → Leads program body.Spans entry exit)
    (embeds : Embeds program (repetition body least most greedy) entry exit) :
    Leads program (repetition body least most greedy).Spans entry exit := by
  rintro place later ⟨count, enough, within, rounds⟩
  cases most with
  | none =>
      cases least with
      | zero =>
          cases filled : body.neverEmpty with
          | true =>
              rcases embeds.of_star_neverEmpty filled with ⟨again, inner⟩
              exact reaches_loop again (ih inner) rounds
          | false =>
              rcases embeds.of_star filled with ⟨first, again, inner⟩
              -- The entry is a loop of its own, which goes on in the other one.
              cases count with
              | zero =>
                  cases rounds
                  exact .single (by rw [Step, first]; exact goes_again_iff.2 (.inr rfl))
              | succ count =>
                  rcases rounds with ⟨middle, here, rounds⟩
                  have another : Step program (entry, place) (entry + 2, place) := by
                    rw [Step, first]
                    exact goes_again_iff.2 (.inl rfl)
                  exact .head another ((ih inner _ _ here).trans
                    (reaches_loop again (ih inner) rounds))
      | succ least =>
          rcases embeds.of_atLeast with ⟨inner, again⟩
          have split : count = least + 1 + (count - (least + 1)) := by omega
          rw [split] at rounds
          rcases exists_middle_of_rounds_add rounds with ⟨middle, front, back⟩
          have all := reaches_stages (fun index => entry + index * body.stateCount)
            (fun index among => ih (inner index among)) front
          simp only [Nat.zero_mul, Nat.add_zero] at all
          exact all.trans (reaches_loop again (ih (inner least (by omega))) back)
  | some most =>
      have fits : count ≤ max least most := within most rfl
      rcases embeds.exists_layout with ⟨stage, further, begins, layout⟩
      have split : count = least + (count - least) := by omega
      rw [split] at rounds
      rcases exists_middle_of_rounds_add rounds with ⟨middle, front, back⟩
      have entered : Step program (entry, place) (stage 0, place) := by
        rw [Step, layout.jump]
        exact .jump
      have required := reaches_stages stage
        (fun index among => ih (layout.required index among)) front
      rw [layout.turn] at required
      have optional := reaches_optional (by omega) layout.again
        (fun index among => ih (layout.optional index among)) layout.last back
      exact .head entered (required.trans optional)

/-- What an expression matches is a way through its states. -/
theorem Embeds.leads {regex : Regex} (embeds : Embeds program regex entry exit) :
    Leads program regex.Spans entry exit := by
  induction regex generalizing entry exit with
  | empty =>
      rintro place _ rfl
      exact .single (by rw [Step, embeds.at_entry]; exact .jump)
  | one set =>
      rintro place later ⟨char, first, has, passes⟩
      exact .single (by rw [Step, embeds.at_entry]; exact .read first has passes)
  | look condition =>
      rintro place _ ⟨holds, rfl⟩
      exact .single (by rw [Step, embeds.at_entry]; exact .check holds)
  | concat first second ihFirst ihSecond =>
      rintro place later ⟨middle, here, there⟩
      exact (ihFirst embeds.of_concat.1 _ _ here).trans (ihSecond embeds.of_concat.2 _ _ there)
  | alternate first second ihFirst ihSecond =>
      rcases embeds.of_alternate with ⟨fork, inFirst, inSecond⟩
      rintro place later (here | there)
      · exact .head (by rw [Step, fork]; exact .first) (ihFirst inFirst _ _ here)
      · exact .head (by rw [Step, fork]; exact .second) (ihSecond inSecond _ _ there)
  | repetition body least most greedy ih => exact leads_repetition ih embeds
  | group number name body ih =>
      rcases embeds.of_group with ⟨enter, leave, inner⟩
      intro place later spans
      have entered : Step program (entry, place) (entry + 2, place) := by
        rw [Step, enter]
        exact .enter
      have left : Step program (entry + 1, later) (exit, later) := by
        rw [Step, leave]
        exact .leave
      exact .head entered ((ih inner _ _ spans).tail left)

section Passes

variable {least : Nat} {greedy : Bool}
  (ih : ∀ {entry exit}, Embeds program body entry exit →
    final < entry ∨ entry + body.stateCount ≤ final → Passes program final body.Spans entry exit)

include ih

theorem passes_star (embeds : Embeds program (repetition body 0 none greedy) entry exit)
    (outside : final < entry ∨ entry + (repetition body 0 none greedy).stateCount ≤ final) :
    Passes program final (repetition body 0 none greedy).Spans entry exit := by
  intro count place stop way
  cases filled : body.neverEmpty with
  | true =>
      rcases embeds.of_star_neverEmpty filled with ⟨again, inner⟩
      simp only [stateCount, filled, if_true] at outside
      rcases passes_loop again (ih inner (by omega)) (by omega) count place stop way with
        ⟨fewer, less, later, ⟨rounds, spans⟩, way⟩
      exact ⟨fewer, less, later, ⟨rounds, by omega, by simp, spans⟩, way⟩
  | false =>
      rcases embeds.of_star filled with ⟨first, again, inner⟩
      simp only [stateCount, filled, if_true, Bool.false_eq_true, if_false] at outside
      -- The entry is a loop of its own, which goes on in the other one.
      rcases exists_step way (by omega) with ⟨fewer, next, rfl, goes, way⟩
      rw [first, goes_again_iff] at goes
      rcases goes with rfl | rfl
      · rcases ih inner (by omega) _ _ _ way with ⟨fewest, less, middle, here, way⟩
        rcases passes_loop again (ih inner (by omega)) (by omega) _ _ _ way with
          ⟨left, smaller, later, ⟨rounds, others⟩, way⟩
        exact ⟨left, by omega, later, ⟨rounds + 1, by omega, by simp, middle, here, others⟩, way⟩
      · exact ⟨fewer, by omega, place, ⟨0, by omega, by simp, rfl⟩, way⟩

theorem passes_atLeast
    (embeds : Embeds program (repetition body (least + 1) none greedy) entry exit)
    (outside : final < entry ∨
      entry + (repetition body (least + 1) none greedy).stateCount ≤ final) :
    Passes program final (repetition body (least + 1) none greedy).Spans entry exit := by
  rcases embeds.of_atLeast with ⟨inner, again⟩
  simp only [stateCount, Nat.add_one_ne_zero, if_false] at outside
  intro count place stop way
  have each : ∀ index < least + 1, Passes program final body.Spans
      (entry + index * body.stateCount) (entry + (index + 1) * body.stateCount) := by
    intro index among
    have bound := mul_size_le among body.stateCount
    exact ih (inner index among) (by omega)
  rcases passes_stages (fun index => entry + index * body.stateCount) each
    (by simpa using way) with ⟨fewer, less, middle, required, way⟩
  rcases passes_loop again (each least (by omega)) (by omega) _ _ _ way with
    ⟨left, smaller, later, ⟨rounds, others⟩, way⟩
  exact ⟨left, by omega, later,
    ⟨least + 1 + rounds, by omega, by simp, required.append others⟩, way⟩

theorem passes_atMost {most : Nat}
    (embeds : Embeds program (repetition body least (some most) greedy) entry exit)
    (outside : final < entry ∨
      entry + (repetition body least (some most) greedy).stateCount ≤ final) :
    Passes program final (repetition body least (some most) greedy).Spans entry exit := by
  rcases embeds.exists_layout with ⟨stage, further, begins, layout⟩
  intro count place stop way
  have different : final ≠ entry := by
    simp only [stateCount] at outside
    omega
  rcases exists_step way different with ⟨fewer, next, rfl, goes, way⟩
  rw [layout.jump] at goes
  cases goes
  have required : ∀ index < least,
      Passes program final body.Spans (stage index) (stage (index + 1)) := by
    intro index among
    have within := layout.stage_within index among
    exact ih (layout.required index among) (by omega)
  have optional : ∀ index < most - least,
      Passes program final body.Spans (begins index) (further (index + 1)) := by
    intro index among
    have within := layout.begins_within index among
    exact ih (layout.optional index among) (by omega)
  rcases passes_stages stage required way with ⟨fewest, less, middle, front, way⟩
  rw [layout.turn] at way
  have apart : ∀ index < most - least, final ≠ further index := by
    intro index among
    have within := layout.further_within index among
    omega
  rcases passes_optional further begins layout.again optional layout.last apart way with
    ⟨left, smaller, later, ⟨rounds, fits, back⟩, way⟩
  refine ⟨left, by omega, later, ⟨least + rounds, by omega, ?_, front.append back⟩, way⟩
  rintro bound ⟨⟩
  omega

end Passes

/-- Who enters the states of an expression leaves them by the exit, having matched it. -/
theorem Embeds.passes {regex : Regex} (embeds : Embeds program regex entry exit)
    (outside : final < entry ∨ entry + regex.stateCount ≤ final) :
    Passes program final regex.Spans entry exit := by
  induction regex generalizing entry exit with
  | empty =>
      intro count place stop way
      rcases exists_step way (by simp only [stateCount] at outside; omega) with
        ⟨fewer, next, rfl, goes, way⟩
      rw [embeds.at_entry] at goes
      cases goes
      exact ⟨fewer, by omega, place, rfl, way⟩
  | one set =>
      intro count place stop way
      rcases exists_step way (by simp only [stateCount] at outside; omega) with
        ⟨fewer, next, rfl, goes, way⟩
      rw [embeds.at_entry] at goes
      cases goes with
      | read first has passes => exact ⟨fewer, by omega, _, ⟨_, first, has, passes⟩, way⟩
  | look condition =>
      intro count place stop way
      rcases exists_step way (by simp only [stateCount] at outside; omega) with
        ⟨fewer, next, rfl, goes, way⟩
      rw [embeds.at_entry] at goes
      cases goes with
      | check holds => exact ⟨fewer, by omega, place, ⟨holds, rfl⟩, way⟩
  | concat first second ihFirst ihSecond =>
      simp only [stateCount] at outside
      intro count place stop way
      rcases ihFirst embeds.of_concat.1 (by omega) _ _ _ way with ⟨fewer, less, middle, here, way⟩
      rcases ihSecond embeds.of_concat.2 (by omega) _ _ _ way with
        ⟨fewest, smaller, later, there, way⟩
      exact ⟨fewest, by omega, later, ⟨middle, here, there⟩, way⟩
  | alternate first second ihFirst ihSecond =>
      rcases embeds.of_alternate with ⟨fork, inFirst, inSecond⟩
      simp only [stateCount] at outside
      intro count place stop way
      rcases exists_step way (by omega) with ⟨fewer, next, rfl, goes, way⟩
      rw [fork] at goes
      cases goes with
      | first =>
          rcases ihFirst inFirst (by omega) _ _ _ way with ⟨fewest, less, later, here, way⟩
          exact ⟨fewest, by omega, later, .inl here, way⟩
      | second =>
          rcases ihSecond inSecond (by omega) _ _ _ way with ⟨fewest, less, later, there, way⟩
          exact ⟨fewest, by omega, later, .inr there, way⟩
  | repetition body least most greedy ih =>
      cases most with
      | none =>
          cases least with
          | zero => exact passes_star ih embeds outside
          | succ least => exact passes_atLeast ih embeds outside
      | some most => exact passes_atMost ih embeds outside
  | group number name body ih =>
      rcases embeds.of_group with ⟨enter, leave, inner⟩
      simp only [stateCount] at outside
      intro count place stop way
      rcases exists_step way (by omega) with ⟨fewer, next, rfl, goes, way⟩
      rw [enter] at goes
      cases goes
      rcases ih inner (by omega) _ _ _ way with ⟨fewest, less, later, spans, way⟩
      rcases exists_step way (by omega) with ⟨left, next, rfl, goes, way⟩
      rw [leave] at goes
      cases goes
      exact ⟨left, by omega, later, spans, way⟩

end Expression

end Regex

end TagOrganizer
