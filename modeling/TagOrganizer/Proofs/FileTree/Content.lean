import TagOrganizer.Proofs.FileTree.Growth

/-!
# Carrying content from tree to tree

No content is lost from one tree to another if each file of the first has a place of its own in the
second, with the same content. Growing carries everything, and so does removing a folder without
entries; a file may be removed if a copy of it has grown before (`Carries.of_copy`).
-/

namespace TagOrganizer

namespace FileTree

/--
Whether the files of a tree have places of their own in another tree, with their content. Only files
at `movable` locations may have another place than before.
-/
def Carries (movable : Location → Prop) (before after : FileTree) : Prop :=
  ∃ place : Location → Location,
    (∀ location content, before.HasFile location content →
      after.HasFile (place location) content) ∧
    (∀ left leftContent right rightContent, before.HasFile left leftContent →
      before.HasFile right rightContent → place left = place right → left = right) ∧
    ∀ location content, before.HasFile location content → place location ≠ location →
      movable location

/-- Whether paths lead where their texts say: there are no links, and relative paths begin. -/
structure Sound (tree : FileTree) : Prop where
  noLinks : tree.NoLinks
  here : tree.HasFolder tree.here

variable {movable : Location → Prop} {tree before between after : FileTree}
  {location removed : Location} {path : Path} {content : String}

theorem Sound.of_grows (sound : before.Sound) (grows : Grows before after) : after.Sound where
  noLinks := grows.noLinks sound.noLinks
  here := by
    rw [grows.here]
    exact grows.hasFolder sound.here

namespace Carries

theorem of_kept (kept : ∀ location content, before.HasFile location content →
    after.HasFile location content) : Carries movable before after :=
  ⟨id, kept, fun _ _ _ _ _ _ same => same, fun _ _ _ moved => absurd rfl moved⟩

theorem refl (movable : Location → Prop) (tree : FileTree) : Carries movable tree tree :=
  of_kept fun _ _ found => found

theorem of_grows (grows : Grows before after) : Carries movable before after :=
  of_kept fun _ _ found => grows.hasFile found

theorem trans (first : Carries movable before between) (second : Carries movable between after) :
    Carries movable before after := by
  rcases first with ⟨place, kept, apart, moved⟩
  rcases second with ⟨next, keptNext, apartNext, movedNext⟩
  refine ⟨next ∘ place, ?_, ?_, ?_⟩
  · intro location content found
    exact keptNext _ _ (kept _ _ found)
  · intro left leftContent right rightContent leftFound rightFound same
    apply apart _ _ _ _ leftFound rightFound
    exact apartNext _ _ _ _ (kept _ _ leftFound) (kept _ _ rightFound) same
  · intro location content found changed
    by_cases stays : place location = location
    · apply movedNext location content
      · rw [← stays]
        exact kept _ _ found
      · rwa [Function.comp, stays] at changed
    · exact moved location content found stays

end Carries

/-! ### Removing a file -/

theorem ne_nil_of_file (found : tree.find? location = some (.file content)) : location ≠ [] := by
  rintro rfl
  cases found

theorem hasFolder_erase (there : tree.find? removed = some (.file content))
    (reached : tree.HasFolder location) : (tree.erase removed).HasFolder location := by
  intro front least
  have found := reached front least
  rw [find?_erase_of_ne]
  · exact found
  · rintro rfl
    rw [there] at found
    cases found

theorem hasFile_erase (there : tree.find? removed = some (.file content))
    {kept : String} (found : tree.HasFile location kept) (different : location ≠ removed) :
    (tree.erase removed).HasFile location kept := by
  refine ⟨hasFolder_erase there found.1, ?_⟩
  rw [find?_erase_of_ne tree different]
  exact found.2

theorem Sound.erase (sound : tree.Sound) (there : tree.find? removed = some (.file content)) :
    (tree.erase removed).Sound where
  noLinks := sound.noLinks.erase removed
  here := hasFolder_erase there sound.here

/-- A file that is removed is where the text of its path says, which is a text that can be used. -/
theorem eq_erase_of_removeFile (noLinks : tree.NoLinks)
    (done : tree.removeFile path = .ok after) :
    textFault? path = none ∧
      ∃ content, tree.find? (lexical tree.here path) = some (.file content) ∧
        after = tree.erase (lexical tree.here path) := by
  unfold removeFile at done
  rcases located : tree.locateLast path with fault | ⟨folder, last⟩
  · rw [located] at done
    cases done
  · rw [located] at done
    cases last with
    | root => cases done
    | current => cases done
    | up => cases done
    | name name =>
        rw [← location_of_locateLast noLinks located]
        simp only [bind, Except.bind] at done
        cases found : tree.find? (folder ++ [name]) with
        | none =>
            rw [found] at done
            cases done
        | some node =>
            rw [found] at done
            cases node with
            | folder => cases done
            | link target => exact absurd found (noLinks _ _)
            | file content =>
                simp only at done
                split at done
                · cases done
                · cases done
                  exact ⟨textFault?_of_locateLast located, content, rfl, rfl⟩

/-- A file may be removed after a copy of it has been made where nothing was. -/
theorem Carries.of_copy (grows : Grows before after) {copy : Location}
    (original : before.HasFile removed content) (fresh : before.find? copy = none)
    (copied : after.HasFile copy content) (allowed : movable removed) :
    Carries movable before (after.erase removed) := by
  have there : after.find? removed = some (.file content) := (grows.hasFile original).2
  have different : copy ≠ removed := by
    rintro rfl
    rw [original.2] at fresh
    cases fresh
  refine ⟨fun location => if location = removed then copy else location, ?_, ?_, ?_⟩
  · intro location kept found
    by_cases same : location = removed
    · subst same
      have equal : kept = content := by
        have twice := found.2.symm.trans original.2
        simpa using twice
      simp only [if_true, equal]
      exact hasFile_erase there copied different
    · simp only [if_neg same]
      exact hasFile_erase there (grows.hasFile found) same
  · intro left leftContent right rightContent leftFound rightFound same
    have elsewhere {place : Location} {kept : String} (found : before.HasFile place kept) :
        place ≠ copy := by
      rintro rfl
      rw [found.2] at fresh
      cases fresh
    simp only at same
    split at same
    · rename_i leftRemoved
      split at same
      · rename_i rightRemoved
        rw [leftRemoved, rightRemoved]
      · exact absurd same.symm (elsewhere rightFound)
    · split at same
      · exact absurd same (elsewhere leftFound)
      · exact same
  · intro location kept found moved
    by_cases same : location = removed
    · rw [same]
      exact allowed
    · exact absurd (if_neg same) moved

/-- Whether a file has been copied, at some time between two trees, to where nothing was. -/
def Copied (source : Location) (before after : FileTree) : Prop :=
  ∃ between content copy, Grows before between ∧ between.HasFile source content ∧
    between.find? copy = none ∧ Grows between after ∧ after.HasFile copy content

theorem Copied.of_grows_left {source : Location} (grows : Grows before between)
    (copied : Copied source between after) : Copied source before after := by
  rcases copied with ⟨middle, content, copy, first, original, fresh, rest⟩
  exact ⟨middle, content, copy, grows.trans first, original, fresh, rest⟩

theorem Copied.of_grows_right {source : Location} (copied : Copied source before between)
    (grows : Grows between after) : Copied source before after := by
  rcases copied with ⟨middle, content, copy, first, original, fresh, rest, found⟩
  exact ⟨middle, content, copy, first, original, fresh, rest.trans grows, grows.hasFile found⟩

/-- A file may be removed once it has been copied. -/
theorem Carries.of_copied (copied : Copied removed before after) (allowed : movable removed) :
    Carries movable before (after.erase removed) := by
  rcases copied with ⟨between, content, copy, first, original, fresh, rest, found⟩
  exact (Carries.of_grows first).trans (Carries.of_copy rest original fresh found allowed)

/-! ### Removing a folder without entries -/

theorem find?_of_isHollow (hollow : tree.isHollow location = true) (name : String) :
    tree.find? (location ++ [name]) = none := by
  rw [Option.eq_none_iff_forall_ne_some]
  intro node found
  have present := mem_children.2 (mem_entries_of_find? (by simp) found)
  rw [isHollow, List.isEmpty_iff] at hollow
  rw [hollow] at present
  cases present

theorem hasFile_erase_of_isHollow (there : tree.find? removed = some .folder)
    (hollow : tree.isHollow removed = true) (found : tree.HasFile location content) :
    (tree.erase removed).HasFile location content := by
  have beside (front : Location) (least : front <+: location) : front ≠ removed := by
    rintro rfl
    rcases least with ⟨rest, rfl⟩
    cases rest with
    | nil =>
        rw [List.append_nil] at found
        rw [found.2] at there
        cases there
    | cons name rest =>
        have missing := find?_of_isHollow hollow name
        cases rest with
        | nil =>
            rw [found.2] at missing
            cases missing
        | cons next rest =>
            have reached := found.1 (front ++ [name]) (by
              rw [List.dropLast_append_cons]
              simp)
            rw [missing] at reached
            cases reached
  constructor
  · intro front least
    rw [find?_erase_of_ne tree (beside front (least.trans (List.dropLast_prefix location)))]
    exact found.1 front least
  · rw [find?_erase_of_ne tree (beside location (List.prefix_refl location))]
    exact found.2

/-- A folder that is removed has no entries, and is where the last name of its path says. -/
theorem eq_erase_of_removeFolder (done : tree.removeFolder path = .ok after) :
    ∃ folder name, tree.locateLast path = .ok (folder, .name name) ∧
      tree.find? (folder ++ [name]) = some .folder ∧
      tree.isHollow (folder ++ [name]) = true ∧ after = tree.erase (folder ++ [name]) := by
  unfold removeFolder at done
  rcases located : tree.locateLast path with fault | ⟨folder, last⟩
  · rw [located] at done
    cases done
  · rw [located] at done
    cases last with
    | root => cases done
    | current => cases done
    | up => cases done
    | name name =>
        simp only [bind, Except.bind] at done
        cases found : tree.find? (folder ++ [name]) with
        | none =>
            rw [found] at done
            cases done
        | some node =>
            rw [found] at done
            cases node with
            | file content => cases done
            | link target => cases done
            | folder =>
                simp only at done
                split at done
                · rename_i hollow
                  cases done
                  exact ⟨folder, name, rfl, found, hollow, rfl⟩
                · cases done

theorem carries_removeFolder (done : tree.removeFolder path = .ok after) :
    Carries movable tree after := by
  rcases eq_erase_of_removeFolder done with ⟨folder, name, -, there, hollow, rfl⟩
  exact Carries.of_kept fun _ _ => hasFile_erase_of_isHollow there hollow

end FileTree

end TagOrganizer
