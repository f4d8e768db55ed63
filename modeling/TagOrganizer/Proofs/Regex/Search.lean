import Mathlib
import TagOrganizer.Proofs.Regex.Automaton
import TagOrganizer.Regex.Search

/-!
# What a search finds

A search finds a match iff the expression matches between two places of the text
(`isMatch_iff`). That the threads at a place come to stand everywhere they can be is a statement
about the states they visit (`exists_visited`): what has been visited is closed under the steps that
read nothing, and there is room enough to visit every state. A run over a text then finds something
iff one of its threads arrives at the end, or one that begins at a later place
(`isSome_run_iff`).
-/

namespace TagOrganizer

namespace Regex

namespace Finder

/-- What the automaton of a finder does in each state. -/
def program (finder : Finder) : Nat → Node :=
  finder.regex.node 0 finder.final

/-- Whether there is a way to the end from a state in which a thread is at a place. -/
def Arrives (finder : Finder) (state : Nat) (place : Place) : Prop :=
  ∃ stop, Relation.ReflTransGen (Step finder.program) (state, place) (finder.final, stop)

/-- The threads in which a thread goes on at the same place. -/
def onward (finder : Finder) (place : Place) (thread : Thread) : List Thread :=
  if thread.state = finder.final then []
  else
    match finder.program thread.state with
    | .read _ _ => []
    | .check condition next => if condition.holds place then [thread.goTo next] else []
    | .fork first second => [thread.goTo first, thread.goTo second]
    | .enter name next => [(thread.enter name place).goTo next]
    | .leave name next => [(thread.leave name place).goTo next]
    | .jump next => [thread.goTo next]

/-- What a thread does if it is in a state from which it does not go on at the same place. -/
def standing (finder : Finder) (thread : Thread) : List Stand :=
  if thread.state = finder.final then [.through thread]
  else
    match finder.program thread.state with
    | .read set next => [.waiting set (thread.goTo next)]
    | _ => []

/-- Whether a thread that stands at a place goes on to the end from there. -/
def Promises (finder : Finder) (place : Place) : Stand → Prop
  | .waiting set thread => ∃ later, Goes (.read set thread.state) place (thread.state, later) ∧
      finder.Arrives thread.state later
  | .through _ => True

/-! ### One step of settling -/

section Settle

variable {finder : Finder} {place : Place} {room : Nat} {thread : Thread} {pending : List Thread}
  {seen : Std.HashSet Nat}

theorem settle_seen (known : thread.state ∈ seen) :
    finder.settle place (room + 1) (thread :: pending) seen =
      finder.settle place room pending seen := by
  rw [settle, if_pos (Std.HashSet.contains_iff_mem.2 known)]

theorem settle_fresh (fresh : thread.state ∉ seen) :
    finder.settle place (room + 1) (thread :: pending) seen =
      finder.standing thread ++
        finder.settle place room (finder.onward place thread ++ pending)
          (seen.insert thread.state) := by
  rw [settle, if_neg (by simpa using fresh), standing, onward, program]
  by_cases ended : thread.state = finder.final
  · simp [ended]
  · simp only [if_neg ended]
    cases finder.regex.node 0 finder.final thread.state <;> rfl

theorem length_onward_le : (finder.onward place thread).length ≤ 2 := by
  rw [onward]
  repeat' split
  all_goals simp

theorem step_of_mem_onward {further : Thread} (goesOn : further ∈ finder.onward place thread) :
    thread.state ≠ finder.final ∧
      Step finder.program (thread.state, place) (further.state, place) := by
  rw [onward] at goesOn
  split at goesOn
  · cases goesOn
  · rename_i different
    refine ⟨different, ?_⟩
    rw [Step]
    split at goesOn <;> rename_i node
    · cases goesOn
    · split at goesOn
      · rename_i holds
        cases List.mem_singleton.1 goesOn
        rw [node]
        exact .check holds
      · cases goesOn
    · rw [node]
      rcases List.mem_pair.1 goesOn with rfl | rfl
      · exact .first
      · exact .second
    · cases List.mem_singleton.1 goesOn
      rw [node]
      exact .enter
    · cases List.mem_singleton.1 goesOn
      rw [node]
      exact .leave
    · cases List.mem_singleton.1 goesOn
      rw [node]
      exact .jump

/-- A step either reads a character for which the thread waits or goes on at the same place. -/
theorem waiting_or_mem_onward {next : Nat} {later : Place}
    (different : thread.state ≠ finder.final)
    (step : Step finder.program (thread.state, place) (next, later)) :
    (∃ set, Stand.waiting set (thread.goTo next) ∈ finder.standing thread ∧
        Goes (.read set next) place (next, later)) ∨
      later = place ∧ ∃ further ∈ finder.onward place thread, further.state = next := by
  rw [Step] at step
  simp only [standing, onward, if_neg different]
  generalize finder.program thread.state = node at step
  cases step with
  | read first has passes => exact .inl ⟨_, List.mem_singleton.2 rfl, .read first has passes⟩
  | check holds => exact .inr ⟨rfl, by simp [holds, Thread.goTo]⟩
  | first => exact .inr ⟨rfl, by simp [Thread.goTo]⟩
  | second => exact .inr ⟨rfl, by simp [Thread.goTo]⟩
  | enter => exact .inr ⟨rfl, by simp [Thread.goTo]⟩
  | leave => exact .inr ⟨rfl, by simp [Thread.goTo]⟩
  | jump => exact .inr ⟨rfl, by simp [Thread.goTo]⟩

theorem arrives_of_standing {stand : Stand} (stands : stand ∈ finder.standing thread)
    (promises : finder.Promises place stand) : finder.Arrives thread.state place := by
  rw [standing] at stands
  split at stands
  · rename_i ended
    exact ⟨place, by rw [ended]⟩
  · split at stands
    · rename_i set next node
      cases List.mem_singleton.1 stands
      rcases promises with ⟨later, goes, stop, way⟩
      have step : Step finder.program (thread.state, place) (next, later) := by
        rw [Step, node]
        exact goes
      exact ⟨stop, .head step way⟩
    · cases stands

end Settle

/-! ### The states of a finder -/

theorem le_final_of_step {regex : Regex} {state next : Nat} {place later : Place}
    (within : state < (ofRegex regex).final)
    (step : Step (ofRegex regex).program (state, place) (next, later)) :
    next ≤ (ofRegex regex).final := by
  have entered : state < 0 + regex.stateCount := by rwa [Nat.zero_add]
  rcases confined_node regex (Nat.zero_le state) entered step with ⟨-, below⟩ | same
  · rw [Nat.zero_add] at below
    exact Nat.le_of_lt below
  · exact Nat.le_of_eq same

theorem le_final_of_mem_onward {regex : Regex} {place : Place} {thread further : Thread}
    (within : thread.state ≤ (ofRegex regex).final)
    (goesOn : further ∈ (ofRegex regex).onward place thread) :
    further.state ≤ (ofRegex regex).final := by
  rcases step_of_mem_onward goesOn with ⟨different, step⟩
  exact le_final_of_step (Nat.lt_of_le_of_ne within different) step

section Settled

variable {regex : Regex} {place : Place} {room : Nat} {pending : List Thread}
  {seen : Std.HashSet Nat}

/-- How many states have not been seen. -/
def unseen (final : Nat) (seen : Std.HashSet Nat) : Nat :=
  ((Finset.range (final + 1)).filter (· ∉ seen)).card

theorem unseen_insert_lt {final state : Nat} (within : state ≤ final) (fresh : state ∉ seen) :
    unseen final (seen.insert state) < unseen final seen := by
  apply Finset.card_lt_card
  constructor
  · intro other
    simp only [Finset.mem_filter, Std.HashSet.mem_insert]
    tauto
  · intro same
    have there : state ∈ (Finset.range (final + 1)).filter (· ∉ seen) := by
      simp only [Finset.mem_filter, Finset.mem_range]
      exact ⟨Nat.lt_succ_of_le within, fresh⟩
    have := same there
    simp [Std.HashSet.mem_insert] at this

theorem unseen_empty_le (final : Nat) : unseen final ∅ ≤ final + 1 := by
  simp [unseen]

/--
What threads visit if there is room enough: the states they are in, and with each state those that
follow at the same place. Of each visited state there is a thread that has come to stand, if threads
stand in it at all.
-/
theorem exists_visited (place : Place)
    (within : ∀ thread ∈ pending, thread.state ≤ (ofRegex regex).final)
    (enough : pending.length + 2 * unseen (ofRegex regex).final seen ≤ room) :
    ∃ visited : Set Nat, (∀ state ∈ seen, state ∈ visited) ∧
      (∀ thread ∈ pending, thread.state ∈ visited) ∧
      ∀ state ∈ visited, state ∉ seen → ∃ thread : Thread, thread.state = state ∧
        (∀ stand ∈ (ofRegex regex).standing thread,
          stand ∈ (ofRegex regex).settle place room pending seen) ∧
        ∀ further ∈ (ofRegex regex).onward place thread, further.state ∈ visited := by
  induction room generalizing pending seen with
  | zero =>
      have none : pending = [] := List.length_eq_zero_iff.1 (by omega)
      subst none
      exact ⟨{state | state ∈ seen}, fun _ known => known, by simp, fun _ known fresh =>
        absurd known fresh⟩
  | succ room ih =>
      cases pending with
      | nil =>
          exact ⟨{state | state ∈ seen}, fun _ known => known, by simp, fun _ known fresh =>
            absurd known fresh⟩
      | cons thread pending =>
          rw [List.length_cons] at enough
          by_cases known : thread.state ∈ seen
          · rw [settle_seen known]
            have room' : pending.length + 2 * unseen (ofRegex regex).final seen ≤ room := by omega
            rcases ih (fun other among => within other (.tail _ among)) room' with
              ⟨visited, old, all, closed⟩
            exact ⟨visited, old, List.forall_mem_cons.2 ⟨old _ known, all⟩, closed⟩
          · rw [settle_fresh known]
            have here : thread.state ≤ (ofRegex regex).final := within thread (.head _)
            have fewer := unseen_insert_lt here known
            have few : ((ofRegex regex).onward place thread).length ≤ 2 := length_onward_le
            have further : ∀ other ∈ (ofRegex regex).onward place thread ++ pending,
                other.state ≤ (ofRegex regex).final := by
              intro other among
              rcases List.mem_append.1 among with goesOn | among
              · exact le_final_of_mem_onward here goesOn
              · exact within other (.tail _ among)
            have room' : ((ofRegex regex).onward place thread ++ pending).length +
                2 * unseen (ofRegex regex).final (seen.insert thread.state) ≤ room := by
              rw [List.length_append]
              omega
            rcases ih further room' with ⟨visited, old, all, closed⟩
            have seenHere : thread.state ∈ visited :=
              old _ Std.HashSet.mem_insert_self
            refine ⟨visited, fun state known => old _ (Std.HashSet.mem_insert.2 (.inr known)),
              ?_, ?_⟩
            · intro other among
              rcases List.mem_cons.1 among with rfl | among
              · exact seenHere
              · exact all other (List.mem_append_right _ among)
            · intro state visitedState fresh
              by_cases same : thread.state = state
              · exact ⟨thread, same, fun stand stands => List.mem_append_left _ stands,
                  fun other goesOn => all other (List.mem_append_left _ goesOn)⟩
              · have unknown : state ∉ seen.insert thread.state := by
                  simp [Std.HashSet.mem_insert, same, fresh]
                rcases closed state visitedState unknown with ⟨other, at_, stands, goesOn⟩
                exact ⟨other, at_, fun stand among => List.mem_append_right _ (stands stand among),
                  goesOn⟩

theorem exists_arrives_of_promises {finder : Finder} {stand : Stand}
    (stands : stand ∈ finder.settle place room pending seen)
    (promises : finder.Promises place stand) :
    ∃ thread ∈ pending, finder.Arrives thread.state place := by
  induction room generalizing pending seen with
  | zero => cases pending <;> cases stands
  | succ room ih =>
      cases pending with
      | nil => cases stands
      | cons thread pending =>
          by_cases known : thread.state ∈ seen
          · rw [settle_seen known] at stands
            rcases ih stands with ⟨other, among, arrives⟩
            exact ⟨other, .tail _ among, arrives⟩
          · rw [settle_fresh known] at stands
            rcases List.mem_append.1 stands with here | stands
            · exact ⟨thread, .head _, arrives_of_standing here promises⟩
            · rcases ih stands with ⟨other, among, arrives⟩
              rcases List.mem_append.1 among with goesOn | among
              · rcases arrives with ⟨stop, way⟩
                exact ⟨thread, .head _, stop, .head (step_of_mem_onward goesOn).2 way⟩
              · exact ⟨other, .tail _ among, arrives⟩

/-- Some thread stands so that it goes on to the end iff there is a way to the end for one. -/
theorem exists_promises_iff (within : ∀ thread ∈ pending, thread.state ≤ (ofRegex regex).final)
    (enough : pending.length + 2 * unseen (ofRegex regex).final ∅ ≤ room) :
    (∃ stand ∈ (ofRegex regex).settle place room pending ∅,
        (ofRegex regex).Promises place stand) ↔
      ∃ thread ∈ pending, (ofRegex regex).Arrives thread.state place := by
  constructor
  · rintro ⟨stand, stands, promises⟩
    exact exists_arrives_of_promises stands promises
  · rintro ⟨thread, among, stop, way⟩
    rcases exists_visited place within enough with ⟨visited, -, all, closed⟩
    have start := all thread among
    have ends : (ofRegex regex).final ∈ visited →
        ∃ stand ∈ (ofRegex regex).settle place room pending ∅,
          (ofRegex regex).Promises place stand := by
      intro there
      rcases closed _ there (by simp) with ⟨last, ended, stands, -⟩
      have through : Stand.through last ∈ (ofRegex regex).standing last := by
        rw [standing, if_pos ended]
        exact .head _
      exact ⟨_, stands _ through, trivial⟩
    rcases reflTransGen_iff_exists_rounds.1 way with ⟨count, rounds⟩
    generalize thread.state = state at start rounds
    induction count generalizing state with
    | zero =>
        cases rounds
        exact ends start
    | succ count ih =>
        rcases closed state start (by simp) with ⟨other, rfl, stands, goesOn⟩
        by_cases ended : other.state = (ofRegex regex).final
        · exact ends (ended ▸ start)
        · rcases rounds with ⟨⟨next, later⟩, step, rounds⟩
          rcases waiting_or_mem_onward ended step with ⟨set, waits, goes⟩ | ⟨rfl, further, on, rfl⟩
          · exact ⟨_, stands _ waits, later, goes, stop,
              reflTransGen_iff_exists_rounds.2 ⟨count, rounds⟩⟩
          · exact ih _ (goesOn further on) rounds

theorem le_final_of_waiting {set : CharSet} {thread : Thread} {later : Place}
    (within : ∀ thread ∈ pending, thread.state ≤ (ofRegex regex).final)
    (waits : .waiting set thread ∈ (ofRegex regex).settle place room pending seen)
    (goes : Goes (.read set thread.state) place (thread.state, later)) :
    thread.state ≤ (ofRegex regex).final := by
  induction room generalizing pending seen with
  | zero => cases pending <;> cases waits
  | succ room ih =>
      cases pending with
      | nil => cases waits
      | cons first pending =>
          have here : first.state ≤ (ofRegex regex).final := within first (.head _)
          by_cases known : first.state ∈ seen
          · rw [settle_seen known] at waits
            exact ih (fun other among => within other (.tail _ among)) waits
          · rw [settle_fresh known] at waits
            rcases List.mem_append.1 waits with waits | waits
            · rw [standing] at waits
              split at waits
              · cases List.mem_singleton.1 waits
              · rename_i different
                split at waits
                · rename_i other next node
                  cases List.mem_singleton.1 waits
                  have step : Step (ofRegex regex).program (first.state, place) (next, later) := by
                    rw [Step, node]
                    exact goes
                  exact le_final_of_step (Nat.lt_of_le_of_ne here different) step
                · cases waits
            · apply ih _ waits
              intro other among
              rcases List.mem_append.1 among with goesOn | among
              · exact le_final_of_mem_onward here goesOn
              · exact within other (.tail _ among)

/-! ### A run over a text -/

theorem isSome_run_some {finder : Finder} {found : Option Match} (already : found.isSome = true)
    (position : Nat) (previous : Option Char) (rest : List Char) :
    (finder.run found pending position previous rest).isSome = true := by
  induction rest generalizing found pending position previous with
  | nil =>
      simp only [run, update]
      split
      · rfl
      · exact already
  | cons char rest ih =>
      have updated (stands : List Stand) (place : Place) :
          (update found stands place).isSome = true := by
        rw [update]
        split
        · rfl
        · exact already
      simp only [run]
      split
      · exact updated _ _
      · exact ih (updated _ _) _ _

theorem firstThrough_eq_none_iff {stands : List Stand} :
    firstThrough stands = none ↔ ∀ thread, .through thread ∉ stands := by
  rw [firstThrough, List.findSome?_eq_none_iff]
  constructor
  · intro none thread among
    cases none _ among
  · intro never stand among
    cases stand with
    | waiting set thread => rfl
    | through thread => exact absurd among (never thread)

theorem preferred_eq_self {stands : List Stand} (none : firstThrough stands = none) :
    preferred stands = stands := by
  rw [firstThrough_eq_none_iff] at none
  rw [preferred, List.takeWhile_eq_self_iff]
  intro stand among
  cases stand with
  | waiting set thread => rfl
  | through thread => exact absurd among (none thread)

theorem mem_reading_iff {char : Char} {stands : List Stand} {thread : Thread} :
    thread ∈ reading char stands ↔ ∃ set, .waiting set thread ∈ stands ∧ set.has char = true := by
  rw [reading, List.mem_filterMap]
  constructor
  · rintro ⟨stand, among, reads⟩
    cases stand with
    | waiting set other =>
        simp only [Option.ite_none_right_eq_some, Option.some.injEq] at reads
        rcases reads with ⟨has, rfl⟩
        exact ⟨set, among, has⟩
    | through other => cases reads
  · rintro ⟨set, among, has⟩
    exact ⟨_, among, by simp [has]⟩

/-- What a thread that waits at a place promises is kept by the thread that reads on. -/
theorem promises_waiting_iff {finder : Finder} {front rest : List Char} {char : Char}
    {set : CharSet} {thread : Thread} :
    finder.Promises (.behind front (char :: rest)) (.waiting set thread) ↔
      set.has char = true ∧ finder.Arrives thread.state (.behind (front ++ [char]) rest) := by
  have next := Place.next?_behind_cons front char rest
  constructor
  · rintro ⟨later, goes, arrives⟩
    cases goes with
    | read first has passes =>
        cases Option.some.inj first
        cases Option.some.inj (next.symm.trans passes)
        exact ⟨has, arrives⟩
  · rintro ⟨has, arrives⟩
    exact ⟨_, .read rfl has next, arrives⟩

theorem le_final_of_begins (within : ∀ thread ∈ pending, thread.state ≤ (ofRegex regex).final) :
    ∀ thread ∈ pending ++ [(⟨0, place, [], []⟩ : Thread)],
      thread.state ≤ (ofRegex regex).final := by
  intro thread among
  rcases List.mem_append.1 among with among | here
  · exact within thread among
  · rw [List.mem_singleton.1 here]
    exact Nat.zero_le _

/-- The threads that stand somewhere go on to the end iff a pending one or a new one does. -/
theorem exists_promises_stands_iff (place : Place)
    (within : ∀ thread ∈ pending, thread.state ≤ (ofRegex regex).final) :
    (∃ stand ∈ (ofRegex regex).stands none pending place,
        (ofRegex regex).Promises place stand) ↔
      (∃ thread ∈ pending, (ofRegex regex).Arrives thread.state place) ∨
        (ofRegex regex).Arrives 0 place := by
  have few := unseen_empty_le (ofRegex regex).final
  have enough : (pending ++ [(⟨0, place, [], []⟩ : Thread)]).length +
      2 * unseen (ofRegex regex).final ∅ ≤ 2 * (ofRegex regex).final + pending.length + 4 := by
    rw [List.length_append, List.length_singleton]
    omega
  rw [stands, Option.isSome_none, if_neg Bool.false_ne_true,
    exists_promises_iff (le_final_of_begins within) enough]
  simp [or_and_right, exists_or]

/-- One place further in a run. -/
theorem run_cons {finder : Finder} {found : Option Match} {front rest : List Char} {char : Char}
    {stands : List Stand}
    (areStands : finder.stands found pending (.behind front (char :: rest)) = stands) :
    finder.run found pending front.length front.getLast? (char :: rest) =
      if (update found stands (.behind front (char :: rest))).isSome &&
          (reading char (preferred stands)).isEmpty then
        update found stands (.behind front (char :: rest))
      else
        finder.run (update found stands (.behind front (char :: rest)))
          (reading char (preferred stands)) (front ++ [char]).length (front ++ [char]).getLast?
          rest := by
  rw [← areStands, List.length_append, List.getLast?_concat]
  rfl

theorem isSome_update_none_iff {stands : List Stand} (place : Place) :
    (update none stands place).isSome = true ↔ ∃ thread, .through thread ∈ stands := by
  rw [update]
  cases first : firstThrough stands with
  | none =>
      rw [firstThrough_eq_none_iff] at first
      simp [first]
  | some thread =>
      have some : ¬ firstThrough stands = none := by simp [first]
      rw [firstThrough_eq_none_iff] at some
      simpa using some

/-- Where a text is split: in front of it, or further on. -/
theorem exists_split_cons_iff {char : Char} {rest : List Char}
    {holds : List Char → List Char → Prop} :
    (∃ passed left, char :: rest = passed ++ left ∧ holds passed left) ↔
      holds [] (char :: rest) ∨
        ∃ passed left, rest = passed ++ left ∧ holds (char :: passed) left := by
  constructor
  · rintro ⟨passed, left, split, here⟩
    rcases List.cons_eq_append_iff.1 split with ⟨rfl, rfl⟩ | ⟨others, rfl, rfl⟩
    · exact .inl here
    · exact .inr ⟨others, left, rfl, here⟩
  · rintro (here | ⟨passed, left, rfl, here⟩)
    · exact ⟨[], _, rfl, here⟩
    · exact ⟨char :: passed, left, rfl, here⟩

/-- Behind the end of a text no thread waits for anything. -/
theorem exists_promises_ended_iff {finder : Finder} {front : List Char} {stands : List Stand} :
    (∃ stand ∈ stands, finder.Promises (.behind front []) stand) ↔
      ∃ thread, .through thread ∈ stands := by
  constructor
  · rintro ⟨stand, stands, promises⟩
    cases stand with
    | waiting set thread =>
        rcases promises with ⟨later, goes, -⟩
        cases goes with
        | read first => cases first
    | through thread => exact ⟨thread, stands⟩
  · rintro ⟨thread, stands⟩
    exact ⟨_, stands, trivial⟩

/-- Where no thread is through, those that read the next character have to go on to the end. -/
theorem exists_promises_reading_iff {finder : Finder} {front rest : List Char} {char : Char}
    {stands : List Stand} (through : ¬ ∃ thread, .through thread ∈ stands) :
    (∃ stand ∈ stands, finder.Promises (.behind front (char :: rest)) stand) ↔
      ∃ thread ∈ reading char stands,
        finder.Arrives thread.state (.behind (front ++ [char]) rest) := by
  constructor
  · rintro ⟨stand, among, promises⟩
    cases stand with
    | waiting set thread =>
        rcases promises_waiting_iff.1 promises with ⟨has, arrives⟩
        exact ⟨thread, mem_reading_iff.2 ⟨set, among, has⟩, arrives⟩
    | through thread => exact absurd ⟨thread, among⟩ through
  · rintro ⟨thread, reads, arrives⟩
    rcases mem_reading_iff.1 reads with ⟨set, waits, has⟩
    exact ⟨_, waits, promises_waiting_iff.2 ⟨has, arrives⟩⟩

/--
A run that has found nothing yet finds something iff a pending thread goes on to the end, or one
that begins at this place or at a later one.
-/
theorem isSome_run_iff (front rest : List Char)
    (within : ∀ thread ∈ pending, thread.state ≤ (ofRegex regex).final) :
    ((ofRegex regex).run none pending front.length front.getLast? rest).isSome = true ↔
      (∃ thread ∈ pending, (ofRegex regex).Arrives thread.state (.behind front rest)) ∨
        ∃ passed left, rest = passed ++ left ∧
          (ofRegex regex).Arrives 0 (.behind (front ++ passed) left) := by
  induction rest generalizing front pending with
  | nil =>
      have here := exists_promises_stands_iff (.behind front []) within
      have found : ((ofRegex regex).run none pending front.length front.getLast? []).isSome = true ↔
          ∃ thread, .through thread ∈ (ofRegex regex).stands none pending (.behind front []) :=
        isSome_update_none_iff _
      rw [found, ← exists_promises_ended_iff, here]
      simp
  | cons char rest ih =>
      have here := exists_promises_stands_iff (.behind front (char :: rest)) within
      generalize areStands : (ofRegex regex).stands none pending
        (.behind front (char :: rest)) = stands at here
      rw [run_cons areStands, exists_split_cons_iff, ← or_assoc, List.append_nil, ← here]
      by_cases through : ∃ thread, .through thread ∈ stands
      · have found := (isSome_update_none_iff (.behind front (char :: rest))).2 through
        rcases through with ⟨thread, stands⟩
        constructor
        · intro _
          exact .inl ⟨_, stands, trivial⟩
        · intro _
          split
          · exact found
          · exact isSome_run_some found _ _ _
      · have first : firstThrough stands = none :=
          firstThrough_eq_none_iff.2 (not_exists.1 through)
        have still : update none stands (.behind front (char :: rest)) = none := by
          rw [update, first]
        have remain : ∀ thread ∈ reading char stands, thread.state ≤ (ofRegex regex).final := by
          intro thread reads
          rcases mem_reading_iff.1 reads with ⟨set, waits, has⟩
          rw [← areStands] at waits
          exact le_final_of_waiting (le_final_of_begins within) waits
            (.read rfl has (Place.next?_behind_cons front char rest))
        rw [still, Option.isSome_none, Bool.false_and, if_neg Bool.false_ne_true,
          preferred_eq_self first, ih (front ++ [char]) remain,
          exists_promises_reading_iff through]
        simp only [List.append_assoc, List.singleton_append]

end Settled

end Finder

/-- An expression is found in a text iff it matches between two places of the text. -/
theorem isMatch_iff (regex : Regex) (text : String) :
    regex.isMatch text = true ↔ ∃ front rest stop, text.toList = front ++ rest ∧
      regex.Spans (.behind front rest) stop := by
  have embeds : Embeds (Finder.ofRegex regex).program regex 0 (Finder.ofRegex regex).final :=
    fun _ _ _ => rfl
  have arrives (place : Place) :
      (Finder.ofRegex regex).Arrives 0 place ↔ ∃ stop, regex.Spans place stop := by
    constructor
    · rintro ⟨stop, way⟩
      rcases reflTransGen_iff_exists_rounds.1 way with ⟨count, rounds⟩
      have outside : (Finder.ofRegex regex).final < 0 ∨
          0 + regex.stateCount ≤ (Finder.ofRegex regex).final :=
        .inr (Nat.le_of_eq (Nat.zero_add _))
      rcases embeds.passes outside count place stop rounds with ⟨-, -, later, spans, -⟩
      exact ⟨later, spans⟩
    · rintro ⟨stop, spans⟩
      exact ⟨stop, embeds.leads place stop spans⟩
  have nobody : ∀ thread ∈ ([] : List Thread), thread.state ≤ (Finder.ofRegex regex).final :=
    fun _ among => nomatch among
  have found := Finder.isSome_run_iff [] text.toList nobody
  simp only [List.not_mem_nil, false_and, exists_false, false_or, List.nil_append, arrives] at found
  exact found.trans (by simp)

end Regex

end TagOrganizer
