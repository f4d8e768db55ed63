import TagOrganizer.Event

/-!
# Results with a log

A computation gives a value and the events on the way to it. The value of a computation never
depends on the log. An evaluation may also fail, and an act may also change a state; what an act has
changed before it fails stays changed.
-/

namespace TagOrganizer

/-- A value and the events on the way to it. -/
structure Logged (α : Type) where
  value : α
  log : List Event

namespace Logged

instance : Monad Logged where
  pure value := ⟨value, []⟩
  bind first next :=
    let second := next first.value
    ⟨second.value, first.log ++ second.log⟩

variable {α β : Type}

@[simp]
theorem value_pure (value : α) : (pure value : Logged α).value = value := rfl

@[simp]
theorem log_pure (value : α) : (pure value : Logged α).log = [] := rfl

@[simp]
theorem value_bind (first : Logged α) (next : α → Logged β) :
    (first >>= next).value = (next first.value).value := rfl

@[simp]
theorem log_bind (first : Logged α) (next : α → Logged β) :
    (first >>= next).log = first.log ++ (next first.value).log := rfl

instance : LawfulMonad Logged :=
  LawfulMonad.mk' Logged
    (fun computation => by
      show Logged.mk computation.value (computation.log ++ []) = computation
      rw [List.append_nil])
    (fun value next => by
      show Logged.mk (next value).value ([] ++ (next value).log) = next value
      rw [List.nil_append])
    (fun first next last => by
      show Logged.mk _ _ = Logged.mk _ _
      simp [bind, List.append_assoc])

/-- Tells an event. -/
def tell (event : Event) : Logged Unit :=
  ⟨(), [event]⟩

end Logged

/-- A computation that may fail, with the events up to its end. -/
abbrev Evaluation := ExceptT Error Logged

/-- A computation on a state that may fail. What it changed before it failed stays changed. -/
abbrev Act (σ : Type) := ExceptT Error (StateT σ Logged)

/-- Tells an event. -/
def tell {m : Type → Type} [MonadLiftT Logged m] (event : Event) : m Unit :=
  liftM (Logged.tell event)

namespace Evaluation

variable {α : Type}

/-- The value or the error that an evaluation ends with. -/
def result (evaluation : Evaluation α) : Except Error α :=
  evaluation.run.value

/-- The events up to the end of an evaluation. -/
def log (evaluation : Evaluation α) : List Event :=
  evaluation.run.log

end Evaluation

namespace Act

variable {σ α : Type}

/-- Performs an act from a state: its result, the state after it and the events. -/
def perform (act : Act σ α) (state : σ) : Logged (Except Error α × σ) :=
  StateT.run (ExceptT.run act) state

/-- An evaluation as an act that changes nothing. -/
def ofEvaluation (evaluation : Evaluation α) : Act σ α :=
  ExceptT.mk (liftM evaluation.run)

instance : MonadLift Evaluation (Act σ) where
  monadLift := ofEvaluation

end Act

end TagOrganizer
