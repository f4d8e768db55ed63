import Mathlib.Data.List.Forall2
import TagOrganizer.Placement
import TagOrganizer.Proofs.Path.Join

/-!
# Chains of movement rules

A chain descends through the movement tree: each of its rules applies to the file and is a sublevel
of the one before, and only the last one may be terminal. Chains are told apart by the positions of
their rules among their siblings, so that the order of declaration is the lexicographic order of
positions. What a walk through the tree should find is described in terms of chains alone.
-/

namespace TagOrganizer

namespace Placement

variable (file : TaggedFile) (resolver : Resolver)

/-- Whether the filter of a rule holds for a file. -/
def Applies (rule : MovementRule) : Prop :=
  (rule.filter.holds file.tags resolver).result = .ok true

/-- A chain below some rules: the positions of its rules among their siblings, and the rules. -/
inductive Chain : List MovementRule → List Nat → List MovementRule → Prop where
  | last {rules : List MovementRule} {position : Nat} {rule : MovementRule}
      (present : rules[position]? = some rule) (applies : Applies file resolver rule) :
      Chain rules [position] [rule]
  | link {rules : List MovementRule} {position : Nat} {rule : MovementRule}
      {positions : List Nat} {nodes : List MovementRule}
      (present : rules[position]? = some rule) (applies : Applies file resolver rule)
      (inner : rule.isTerminal = false) (rest : Chain rule.sublevels positions nodes) :
      Chain rules (position :: positions) (rule :: nodes)

/-- Whether the last of some rules is terminal. -/
def EndsTerminal (nodes : List MovementRule) : Prop :=
  ∃ rule, nodes.getLast? = some rule ∧ rule.isTerminal = true

/-- A chain that ends at a terminal rule. -/
structure TerminalChain (rules : List MovementRule) (positions : List Nat)
    (nodes : List MovementRule) : Prop where
  chain : Chain file resolver rules positions nodes
  terminal : EndsTerminal nodes

/-- The chain that comes first, in the order of declaration, of those that end terminally. -/
structure FirstTerminalChain (rules : List MovementRule) (positions : List Nat)
    (nodes : List MovementRule) : Prop extends
    TerminalChain file resolver rules positions nodes where
  first : ∀ otherPositions otherNodes,
    TerminalChain file resolver rules otherPositions otherNodes →
      positions = otherPositions ∨ positions < otherPositions

/-- The chain that takes the first rule that applies at every level, until none does. -/
inductive Leading : List MovementRule → List MovementRule → Prop where
  | stop {rules : List MovementRule}
      (unmatched : ∀ rule ∈ rules, ¬Applies file resolver rule) : Leading rules []
  | take {before after nodes : List MovementRule} {rule : MovementRule}
      (unmatched : ∀ earlier ∈ before, ¬Applies file resolver earlier)
      (applies : Applies file resolver rule) (rest : Leading rule.sublevels nodes) :
      Leading (before ++ rule :: after) (rule :: nodes)

/-- The path segments that some rules contribute for a file. -/
def Segments (nodes : List MovementRule) (segments : List Path) : Prop :=
  List.Forall₂
    (fun rule segment => (segmentOf file resolver rule.subfolder).result = .ok segment)
    nodes segments

variable {file resolver}

/-- A chain that ends at a terminal rule ends at its first one. -/
theorem terminalChain_cons_iff {rules : List MovementRule} {position : Nat}
    {positions : List Nat} {nodes : List MovementRule} :
    TerminalChain file resolver rules (position :: positions) nodes ↔
      ∃ rule, rules[position]? = some rule ∧ Applies file resolver rule ∧
        ((rule.isTerminal = true ∧ positions = [] ∧ nodes = [rule]) ∨
          (rule.isTerminal = false ∧ ∃ rest, nodes = rule :: rest ∧
            TerminalChain file resolver rule.sublevels positions rest)) := by
  constructor
  · rintro ⟨chain, rule, isLast, terminal⟩
    cases chain with
    | last present applies =>
        simp only [List.getLast?_singleton, Option.some.injEq] at isLast
        subst isLast
        exact ⟨_, present, applies, Or.inl ⟨terminal, rfl, rfl⟩⟩
    | link present applies inner rest =>
        refine ⟨_, present, applies, Or.inr ⟨inner, _, rfl, rest, rule, ?_, terminal⟩⟩
        cases rest <;> simpa [List.getLast?_cons_cons] using isLast
  · rintro ⟨rule, present, applies, ⟨terminal, rfl, rfl⟩ | ⟨inner, rest, rfl, below⟩⟩
    · exact ⟨Chain.last present applies, rule, rfl, terminal⟩
    · rcases below with ⟨chain, last, isLast, terminal⟩
      refine ⟨Chain.link present applies inner chain, last, ?_, terminal⟩
      cases chain <;> simpa [List.getLast?_cons_cons] using isLast

theorem TerminalChain.positions_ne_nil {rules : List MovementRule} {positions : List Nat}
    {nodes : List MovementRule} (chain : TerminalChain file resolver rules positions nodes) :
    positions ≠ [] := by
  cases chain.chain <;> simp

theorem terminalChain_append_iff {front back : List MovementRule} {position : Nat}
    {positions : List Nat} {nodes : List MovementRule} :
    TerminalChain file resolver (front ++ back) (position :: positions) nodes ↔
      (position < front.length ∧
        TerminalChain file resolver front (position :: positions) nodes) ∨
      (front.length ≤ position ∧
        TerminalChain file resolver back ((position - front.length) :: positions) nodes) := by
  simp only [terminalChain_cons_iff]
  by_cases within : position < front.length
  · simp [List.getElem?_append_left within, within, Nat.not_le.2 within]
  · rw [Nat.not_lt] at within
    simp [List.getElem?_append_right within, within, Nat.not_lt.2 within]

theorem terminalChain_singleton_iff {rule : MovementRule} {positions : List Nat}
    {nodes : List MovementRule} :
    TerminalChain file resolver [rule] positions nodes ↔
      Applies file resolver rule ∧
        ((rule.isTerminal = true ∧ positions = [0] ∧ nodes = [rule]) ∨
          (rule.isTerminal = false ∧ ∃ lower rest, positions = 0 :: lower ∧ nodes = rule :: rest ∧
            TerminalChain file resolver rule.sublevels lower rest)) := by
  constructor
  · intro chain
    cases positions with
    | nil => exact absurd rfl chain.positions_ne_nil
    | cons position positions =>
        rcases terminalChain_cons_iff.1 chain with ⟨found, present, applies, lower⟩
        have first : position = 0 := by simpa using (List.getElem?_eq_some_iff.1 present).1
        have same : found = rule := by simpa using List.mem_of_getElem? present
        subst first same
        refine ⟨applies, ?_⟩
        rcases lower with ⟨terminal, rfl, rfl⟩ | ⟨inner, rest, rfl, lower⟩
        · exact Or.inl ⟨terminal, rfl, rfl⟩
        · exact Or.inr ⟨inner, positions, rest, rfl, rfl, lower⟩
  · rintro ⟨applies, ⟨terminal, rfl, rfl⟩ | ⟨inner, lower, rest, rfl, rfl, below⟩⟩
    · exact terminalChain_cons_iff.2 ⟨rule, rfl, applies, Or.inl ⟨terminal, rfl, rfl⟩⟩
    · exact terminalChain_cons_iff.2 ⟨rule, rfl, applies, Or.inr ⟨inner, rest, rfl, below⟩⟩

end Placement

end TagOrganizer
