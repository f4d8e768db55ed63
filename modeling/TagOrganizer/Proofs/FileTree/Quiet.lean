import TagOrganizer.Proofs.FileTree.Ensures
import TagOrganizer.Proofs.FileTree.Tells

/-!
# What operations ensure unless they raise an alarm

Some faults end no run but are only told about. What an operation ensures as long as it tells of
none of them is built up as what it ensures in any case, except that nothing has to be shown for a
step that raises the alarm.
-/

namespace TagOrganizer

namespace Operation

variable {α β : Type} {tree : FileTree} {alarming : Event → Bool} {operation : Operation α}
  {post : Except Error α → FileTree → Prop}

/-- Whether an operation ensures something on a tree, as long as it tells no alarming event. -/
def EnsuresUnless (alarming : Event → Bool) (operation : Operation α) (tree : FileTree)
    (post : Except Error α → FileTree → Prop) : Prop :=
  (∀ event ∈ (operation.perform (Disk.bare tree)).log, alarming event = false) →
    operation.Ensures tree post

theorem Ensures.unless (ensured : operation.Ensures tree post) :
    operation.EnsuresUnless alarming tree post :=
  fun _ => ensured

theorem EnsuresUnless.mono {weaker : Except Error α → FileTree → Prop}
    (ensured : operation.EnsuresUnless alarming tree post)
    (implied : ∀ result after, post result after → weaker result after) :
    operation.EnsuresUnless alarming tree weaker :=
  fun quiet => (ensured quiet).mono implied

/-- What follows an operation raises no alarm if both together raise none. -/
theorem ensuresUnless_bind {next : α → Operation β} {post : Except Error β → FileTree → Prop}
    (ensured : operation.EnsuresUnless alarming tree fun result after =>
      match result with
      | .ok value => (next value).EnsuresUnless alarming after post
      | .error error => post (.error error) after) :
    (operation >>= next).EnsuresUnless alarming tree post := by
  intro quiet
  rw [log_bind] at quiet
  have first := ensured fun event told => quiet event (List.mem_append_left _ told)
  apply ensures_bind
  apply first.ended.mono
  rintro result after ⟨ended, holds⟩
  cases result with
  | error error => exact holds
  | ok value =>
      apply holds
      intro event told
      apply quiet event
      rw [ended]
      exact List.mem_append_right _ told

/-- What an operation ensures has to be enough for what follows it, or if it fails for the end. -/
theorem EnsuresUnless.bind {next : α → Operation β} {last : Except Error β → FileTree → Prop}
    (ensured : operation.EnsuresUnless alarming tree post)
    (failed : ∀ error after, post (.error error) after → last (.error error) after)
    (further : ∀ value after, post (.ok value) after →
      (next value).EnsuresUnless alarming after last) :
    (operation >>= next).EnsuresUnless alarming tree last := by
  apply ensuresUnless_bind
  apply ensured.mono
  intro result after holds
  cases result with
  | ok value => exact further value after holds
  | error error => exact failed error after holds

/-- The first step through a list has to ensure what the others need, or if it fails the end. -/
theorem EnsuresUnless.mapM_cons {step : α → Operation β} {item : α} {items : List α}
    {post : Except Error β → FileTree → Prop} {last : Except Error (List β) → FileTree → Prop}
    (first : (step item).EnsuresUnless alarming tree post)
    (failed : ∀ error after, post (.error error) after → last (.error error) after)
    (others : ∀ value between, post (.ok value) between →
      (items.mapM step).EnsuresUnless alarming between fun result after =>
        last (result.map (value :: ·)) after) :
    ((item :: items).mapM step).EnsuresUnless alarming tree last := by
  rw [List.mapM_cons]
  apply first.bind failed
  intro value between holds
  apply (others value between holds).bind
  · exact fun error after holds => holds
  · exact fun values after holds => (ensures_pure holds).unless

/-- Nothing has to be ensured once an alarm has been raised. -/
theorem ensuresUnless_alarm {event : Event} (alarm : alarming event = true)
    (next : Unit → Operation α) :
    ((tell event : Operation Unit) >>= next).EnsuresUnless alarming tree post := by
  intro quiet
  have silent := quiet event (by
    rw [log_bind]
    exact List.mem_append_left _ (List.mem_singleton_self event))
  rw [alarm] at silent
  cases silent

end Operation

end TagOrganizer
