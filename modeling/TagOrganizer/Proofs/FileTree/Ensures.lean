import TagOrganizer.FileTree.Operation
import TagOrganizer.Proofs.Act

/-!
# What operations ensure

What holds after an operation on a tree where no journal is kept, whether it succeeds or fails.
There is one rule for each way to build an operation; a property of trees that every step keeps is
kept by going through a list.
-/

namespace TagOrganizer

namespace Operation

variable {σ α β : Type} {tree : FileTree}

/-- Whether the result of an operation on a tree and the tree after it are as they should be. -/
def Ensures (operation : Operation α) (tree : FileTree)
    (post : Except Error α → FileTree → Prop) : Prop :=
  ∃ result after, (operation.perform (Disk.bare tree)).value = (result, Disk.bare after) ∧
    post result after

variable {operation : Operation α} {post : Except Error α → FileTree → Prop}

theorem Ensures.mono {weaker : Except Error α → FileTree → Prop}
    (ensured : operation.Ensures tree post)
    (implied : ∀ result after, post result after → weaker result after) :
    operation.Ensures tree weaker := by
  rcases ensured with ⟨result, after, ended, holds⟩
  exact ⟨result, after, ended, implied result after holds⟩

theorem Ensures.ended (ensured : operation.Ensures tree post) :
    operation.Ensures tree fun result after =>
      (operation.perform (Disk.bare tree)).value = (result, Disk.bare after) ∧
        post result after := by
  rcases ensured with ⟨result, after, ended, holds⟩
  exact ⟨result, after, ended, ended, holds⟩

theorem Ensures.performOn (ensured : operation.Ensures tree post) :
    ∃ result after, (operation.performOn tree).value = (result, after) ∧ post result after := by
  rcases ensured with ⟨result, after, ended, holds⟩
  refine ⟨result, after, ?_, holds⟩
  rw [Operation.performOn, Logged.value_bind, ended]
  rfl

theorem ensures_pure {value : α} (holds : post (.ok value) tree) :
    (pure value : Operation α).Ensures tree post :=
  ⟨.ok value, tree, rfl, holds⟩

theorem ensures_throw {error : Error} (holds : post (.error error) tree) :
    (throw error : Operation α).Ensures tree post :=
  ⟨.error error, tree, rfl, holds⟩

theorem ensures_tell {event : Event} {post : Except Error Unit → FileTree → Prop}
    (holds : post (.ok ()) tree) : (tell event : Operation Unit).Ensures tree post :=
  ⟨.ok (), tree, rfl, holds⟩

theorem ensures_tree {post : Except Error FileTree → FileTree → Prop}
    (holds : post (.ok tree) tree) : Operation.tree.Ensures tree post :=
  ⟨.ok tree, tree, rfl, holds⟩

theorem ensures_setTree {after : FileTree} {post : Except Error Unit → FileTree → Prop}
    (holds : post (.ok ()) after) : (setTree after).Ensures tree post :=
  ⟨.ok (), after, rfl, holds⟩

/-- What follows an operation has to ensure the rest, unless the operation fails. -/
theorem ensures_bind {next : α → Operation β} {post : Except Error β → FileTree → Prop}
    (ensured : operation.Ensures tree fun result after =>
      match result with
      | .ok value => (next value).Ensures after post
      | .error error => post (.error error) after) :
    (operation >>= next).Ensures tree post := by
  rcases ensured with ⟨result, between, ended, holds⟩
  have steps := Act.ends_bind (show Act Disk α from operation)
    (show α → Act Disk β from next) (Disk.bare tree)
  have first : Act.ends (show Act Disk α from operation) (Disk.bare tree) =
      (result, Disk.bare between) := ended
  rw [first] at steps
  cases result with
  | ok value =>
      rcases holds with ⟨result, after, endedNext, holds⟩
      exact ⟨result, after, steps.trans endedNext, holds⟩
  | error error => exact ⟨.error error, between, steps, holds⟩

/-- What an operation ensures has to be enough for what follows it, or if it fails for the end. -/
theorem Ensures.bind {next : α → Operation β} {last : Except Error β → FileTree → Prop}
    (ensured : operation.Ensures tree post)
    (failed : ∀ error after, post (.error error) after → last (.error error) after)
    (further : ∀ value after, post (.ok value) after → (next value).Ensures after last) :
    (operation >>= next).Ensures tree last := by
  apply ensures_bind
  apply ensured.mono
  intro result after holds
  cases result with
  | ok value => exact further value after holds
  | error error => exact failed error after holds

theorem ensures_map {change : α → β} {post : Except Error β → FileTree → Prop}
    (ensured : operation.Ensures tree fun result after => post (result.map change) after) :
    (change <$> operation).Ensures tree post := by
  rw [map_eq_pure_bind]
  exact ensured.bind (fun _ _ holds => holds) fun _ _ holds => ensures_pure holds

/-- The first step through a list has to ensure what the others need, or if it fails the end. -/
theorem Ensures.mapM_cons {step : α → Operation β} {item : α} {items : List α}
    {post : Except Error β → FileTree → Prop} {last : Except Error (List β) → FileTree → Prop}
    (first : (step item).Ensures tree post)
    (failed : ∀ error after, post (.error error) after → last (.error error) after)
    (others : ∀ value between, post (.ok value) between →
      (items.mapM step).Ensures between fun result after =>
        last (result.map (value :: ·)) after) :
    ((item :: items).mapM step).Ensures tree last := by
  rw [List.mapM_cons]
  apply first.bind failed
  intro value between holds
  apply (others value between holds).bind
  · exact fun error after holds => holds
  · exact fun values after holds => ensures_pure holds

theorem ensures_look {act : FileTree → Act σ α} {state : σ}
    {post : Except Error (α × σ) → FileTree → Prop}
    (holds : post (((act tree).ends state).1.map fun value => (value, ((act tree).ends state).2))
      tree) :
    (look act state).Ensures tree post := by
  have noted := Disk.noteAll_bare tree ((act tree).perform state).log
  exact ⟨_, tree, congrArg (Prod.mk _) noted, holds⟩

theorem ensures_evaluation {evaluation : Evaluation α} (holds : post evaluation.result tree) :
    (liftM evaluation : Operation α).Ensures tree post := by
  apply ensures_map (ensures_look ?_)
  show post ((evaluation.result.map fun value => (value, ())).map Prod.fst) tree
  cases ended : evaluation.result with
  | ok value => rwa [ended] at holds
  | error error => rwa [ended] at holds

theorem ensures_logged {computation : Logged α} (holds : post (.ok computation.value) tree) :
    (liftM computation : Operation α).Ensures tree post := by
  have holds : post (liftM computation : Evaluation α).result tree := by
    rwa [Evaluation.result_logged]
  exact ensures_evaluation holds

theorem ensures_attempt {change : FileTree → Except StorageFault FileTree}
    {post : Except Error (Except StorageFault Unit) → FileTree → Prop}
    (done : ∀ after, change tree = .ok after → post (.ok (.ok ())) after)
    (failed : ∀ fault, change tree = .error fault → post (.ok (.error fault)) tree) :
    (attempt change).Ensures tree post := by
  apply ensures_bind (ensures_tree ?_)
  simp only
  cases changed : change tree with
  | ok after => exact ensures_bind (ensures_setTree (ensures_pure (done after changed)))
  | error fault => exact ensures_pure (failed fault changed)

theorem ensures_change {change : FileTree → Except StorageFault FileTree}
    {post : Except Error Unit → FileTree → Prop}
    (done : ∀ after, change tree = .ok after → post (.ok ()) after)
    (failed : ∀ fault, post (.error (.storage fault)) tree) :
    (Operation.change change).Ensures tree post := by
  apply ensures_bind (ensures_attempt ?_ ?_)
  · intro after changed
    exact ensures_pure (done after changed)
  · intro fault _
    exact ensures_throw (failed fault)

theorem ensures_makeFolders {path : Path} {post : Except Error Unit → FileTree → Prop}
    (holds : ∀ result, post result (tree.makeFolders path).1) :
    (makeFolders path).Ensures tree post := by
  apply ensures_bind (ensures_tree ?_)
  simp only
  apply ensures_bind (ensures_setTree ?_)
  revert holds
  cases tree.makeFolders path with
  | mk after outcome =>
      intro holds
      cases outcome with
      | ok value => exact ensures_pure (holds _)
      | error fault => exact ensures_throw (holds _)

/--
A property of trees and states that each step keeps is kept by all steps; if one of them fails, what
it keeps of the tree is left.
-/
theorem ensures_foldlM {step : σ → α → Operation σ} {items : List α} {keeps : FileTree → Prop}
    {fine : σ → Prop}
    (kept : ∀ state item tree, item ∈ items → fine state → keeps tree →
      (step state item).Ensures tree fun result after =>
        keeps after ∧ ∀ next, result = .ok next → fine next)
    (start : keeps tree) {state : σ} (begun : fine state) :
    (items.foldlM step state).Ensures tree fun result after =>
      keeps after ∧ ∀ last, result = .ok last → fine last := by
  induction items generalizing state tree with
  | nil =>
      refine ensures_pure ⟨start, ?_⟩
      rintro last done
      cases done
      exact begun
  | cons item items ih =>
      rw [List.foldlM_cons]
      apply (kept state item tree (by simp) begun start).bind
      · rintro error after ⟨holds, -⟩
        exact ⟨holds, nofun⟩
      · rintro next between ⟨holds, good⟩
        apply ih
        · intro state other tree present
          exact kept state other tree (by simp [present])
        · exact holds
        · exact good next rfl

/--
What holds of the items that have been gone through, of the state and of the tree, and is carried on
by each step, holds of all items in the end.
-/
theorem ensures_foldlM_front {step : σ → α → Operation σ} {items : List α}
    (holds : List α → σ → FileTree → Prop)
    (further : ∀ front item rest state tree, items = front ++ item :: rest →
      holds front state tree → (step state item).Ensures tree fun result after =>
        ∃ next, result = .ok next ∧ holds (front ++ [item]) next after)
    {state : σ} (begun : holds [] state tree) :
    (items.foldlM step state).Ensures tree fun result after =>
      ∃ last, result = .ok last ∧ holds items last after := by
  have run (front rest : List α) (whole : items = front ++ rest) {state : σ} {tree : FileTree}
      (begun : holds front state tree) :
      (rest.foldlM step state).Ensures tree fun result after =>
        ∃ last, result = .ok last ∧ holds items last after := by
    induction rest generalizing front state tree with
    | nil =>
        rw [List.append_nil] at whole
        subst whole
        exact ensures_pure ⟨state, rfl, begun⟩
    | cons item rest ih =>
        rw [List.foldlM_cons]
        apply (further front item rest state tree whole begun).bind
        · rintro error after ⟨next, failed, -⟩
          cases failed
        · rintro value between ⟨next, done, holds⟩
          cases done
          exact ih (front ++ [item]) (by simp [whole]) holds
  exact run [] items rfl begun

theorem ensures_foldlM_tree {step : σ → α → Operation σ} {items : List α}
    {keeps : FileTree → Prop}
    (kept : ∀ state item tree, item ∈ items → keeps tree →
      (step state item).Ensures tree fun _ after => keeps after)
    (start : keeps tree) (state : σ) :
    (items.foldlM step state).Ensures tree fun _ after => keeps after := by
  have always : (items.foldlM step state).Ensures tree fun result after =>
      keeps after ∧ ∀ last, result = .ok last → True := by
    refine ensures_foldlM ?_ start trivial
    intro state item tree present _ holds
    exact (kept state item tree present holds).mono fun _ _ holds => ⟨holds, fun _ _ => trivial⟩
  exact always.mono fun _ _ holds => holds.1

theorem ensures_forM {step : α → Operation PUnit} {items : List α} {keeps : FileTree → Prop}
    (kept : ∀ item tree, item ∈ items → keeps tree →
      (step item).Ensures tree fun _ after => keeps after)
    (start : keeps tree) : (items.forM step).Ensures tree fun _ after => keeps after := by
  induction items generalizing tree with
  | nil => exact ensures_pure start
  | cons item items ih =>
      rw [List.forM]
      apply (kept item tree (by simp) start).bind
      · intro error after holds
        exact holds
      · intro _ between holds
        apply ih
        · intro other tree present
          exact kept other tree (by simp [present])
        · exact holds

end Operation

end TagOrganizer
