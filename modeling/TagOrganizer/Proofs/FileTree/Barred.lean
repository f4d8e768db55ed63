import TagOrganizer.Proofs.FileTree.Persistence

/-!
# Paths past a folder that is removed

When a folder is removed with all below it, a path still leads to the file that it led to, unless
the folder holds the file or is passed on the way to it (`nodeAt?_eraseBelow`). A file that is
copied over something else lies at both paths afterwards (`nodeAt?_of_copyFile_of_ne`).
-/

namespace TagOrganizer

namespace FileTree

/-- Whether a place is at or above a location that is passed before the last step of a path. -/
def Bars (here : Location) (path : Path) (place : Location) : Prop :=
  ∃ front, front <+: (steps path).dropLast ∧
    place <+: resolve (if path.isAbsolute then [] else here) front

variable {tree after : FileTree} {follow : Bool} {links : Nat} {along : List String}
  {folder location place : Location} {path source target : Path} {content : String}

theorem bars_iff {here : Location} :
    Bars here path place ↔ ∃ front ∈ (steps path).dropLast.inits,
      place <+: resolve (if path.isAbsolute then [] else here) front := by
  simp only [Bars, List.mem_inits]

/-- What is removed below a place is not missed by a walk that does not pass the place. -/
theorem walk_eraseBelow (noLinks : tree.NoLinks)
    (clear : ∀ front, front <+: along.dropLast → ¬place <+: resolve folder front)
    (walked : tree.walk follow links along folder = .ok location) :
    (tree.eraseBelow place).walk follow links along folder = .ok location := by
  induction along generalizing folder with
  | nil =>
      rw [walk] at walked ⊢
      exact walked
  | cons step along ih =>
      by_cases last : along = []
      · subst last
        by_cases current : step = "."
        · rw [walk, if_pos current, walk] at walked ⊢
          exact walked
        · by_cases up : step = ".."
          · rw [walk, if_neg current, if_pos up, walk] at walked ⊢
            exact walked
          · have short := short_of_walk ⟨current, up⟩ walked
            rw [walk_last noLinks ⟨current, up⟩ short] at walked
            rw [walk_last (noLinks.eraseBelow place) ⟨current, up⟩ short]
            exact walked
      · have further {next : Location} (taken : afterStep folder step = next) :
            ∀ front, front <+: along.dropLast → ¬place <+: resolve next front := by
          intro front least
          have passed := clear (step :: front) (by
            rw [List.dropLast_cons_of_ne_nil last]
            exact List.cons_prefix_cons.2 ⟨rfl, least⟩)
          rwa [resolve, List.foldl_cons, ← resolve, taken] at passed
        by_cases current : step = "."
        · rw [walk, if_pos current] at walked ⊢
          exact ih (further (if_pos current)) walked
        · by_cases up : step = ".."
          · rw [walk, if_neg current, if_pos up] at walked ⊢
            exact ih (further (by rw [afterStep, if_neg current, if_pos up])) walked
          · have next : afterStep folder step = folder ++ [step] := by
              rw [afterStep, if_neg current, if_neg up]
            have beside : ¬place <+: folder ++ [step] := further next [] List.nil_prefix
            have short := short_of_walk ⟨current, up⟩ walked
            rcases walk_name noLinks ⟨current, up⟩ walked with ⟨inside, more⟩ | ⟨ended, -, -⟩
            · have kept := (find?_eraseBelow_of_outside tree beside).trans inside
              rw [walk, if_neg current, if_neg up, if_neg short]
              simp only [kept]
              exact ih (further next) more
            · exact absurd ended last

theorem locate_eraseBelow (noLinks : tree.NoLinks) (clear : ¬Bars tree.here path place)
    (located : tree.locate follow path = .ok location) :
    (tree.eraseBelow place).locate follow path = .ok location := by
  unfold locate at located ⊢
  split at located
  · cases located
  · refine walk_eraseBelow noLinks (fun front least barred => ?_) located
    exact clear ⟨front, least, barred⟩

/-- What is at or above the end of a path is its end, or is passed before. -/
theorem eq_lexical_of_above (clear : ¬Bars tree.here path place)
    (above : place <+: lexical tree.here path) : place = lexical tree.here path := by
  rw [lexical, ← resolve_steps] at above ⊢
  cases taken : (steps path).getLast? with
  | none =>
      rw [List.getLast?_eq_none_iff] at taken
      rw [taken] at above
      exact absurd ⟨[], List.nil_prefix, above⟩ clear
  | some step =>
      rcases List.getLast?_eq_some_iff.1 taken with ⟨front, shape⟩
      have outside : ¬place <+: resolve (if path.isAbsolute then [] else tree.here) front := by
        intro barred
        refine clear ⟨front, ?_, barred⟩
        rw [shape, List.dropLast_concat]
      rw [shape, resolve_append] at above ⊢
      simp only [resolve, List.foldl_cons, List.foldl_nil] at above outside ⊢
      unfold afterStep at above ⊢
      split at above
      · exact absurd above outside
      · split at above
        · exact absurd (above.trans (List.dropLast_prefix _)) outside
        · rename_i notCurrent notUp
          rw [if_neg notCurrent, if_neg notUp]
          exact (List.prefix_concat_iff.1 above).resolve_right outside

/-- A path leads to the same file after something else has been removed with all below it. -/
theorem nodeAt?_eraseBelow (noLinks : tree.NoLinks) (clear : ¬Bars tree.here path place)
    (elsewhere : place ≠ lexical tree.here path)
    (led : tree.nodeAt? path = some (.file content)) :
    (tree.eraseBelow place).nodeAt? path = some (.file content) := by
  rw [nodeAt?_eq_some_iff noLinks] at led
  rw [nodeAt?_eq_some_iff (noLinks.eraseBelow place)]
  refine ⟨locate_eraseBelow noLinks clear led.1, ?_⟩
  rw [← led.2]
  exact find?_eraseBelow_of_outside tree fun above =>
    elsewhere (eq_lexical_of_above clear above)

/-! ### Files that are copied over others -/

theorem keepsFolders_put (writable : tree.find? place ≠ some .folder) (content : String) :
    KeepsFolders tree (tree.put place (.file content)) where
  kept := by
    intro location found
    rw [find?_put_of_ne]
    · exact found
    · rintro rfl
      exact writable found
  here := rfl
  noLinks := fun noLinks => noLinks.put (by simp) place

/-- A place that can be written to is where a path leads, and no folder. -/
theorem find?_of_locateForWriting (writable : tree.locateForWriting path = .ok place) :
    tree.find? place ≠ some .folder := by
  have located := locate_of_locateForWriting writable
  unfold locateForWriting at writable
  split at writable
  · rcases ended : tree.locateLast path with fault | last
    · rw [ended] at writable
      cases writable
    · rw [ended] at writable
      cases writable
  · rw [located] at writable
    simp only [bind, Except.bind] at writable
    split at writable
    · cases writable
    · rename_i other
      cases writable
      exact other

/-- A file that is copied to another place lies there, too, and nothing else is lost. -/
theorem nodeAt?_of_copyFile_of_ne (noLinks : tree.NoLinks)
    (original : tree.nodeAt? source = some (.file content))
    (apart : lexical tree.here target ≠ lexical tree.here source)
    (copied : tree.copyFile source target = .ok after) :
    after = tree.put (lexical tree.here target) (.file content) ∧ KeepsFolders tree after ∧
      after.nodeAt? target = some (.file content) := by
  rcases copyFile_eq_ok_iff.1 copied with ⟨origin, other, place, looked, writable, shape⟩
  have located := locate_of_locateForWriting writable
  have source := lookUp_eq_ok_iff.2 ((nodeAt?_eq_some_iff noLinks).1 original)
  rw [looked] at source
  cases source
  have shown := (location_of_locate noLinks located).1
  subst shown
  rw [if_neg apart] at shape
  have keeps := keepsFolders_put (find?_of_locateForWriting writable) content
  rw [← shape] at keeps
  refine ⟨shape, keeps, ?_⟩
  have inside : lexical tree.here target ≠ [] := by
    intro root
    apply find?_of_locateForWriting writable
    rw [root]
    rfl
  rw [nodeAt?_eq_some_iff (keeps.noLinks noLinks), keeps.here]
  refine ⟨keeps.locate noLinks located, ?_⟩
  rw [shape]
  exact find?_put_self tree _ inside

/-- A file can be copied to where there is no folder. -/
theorem exists_copyFile (noLinks : tree.NoLinks)
    (original : tree.nodeAt? source = some (.file content)) (slashless : endsInSlash target = false)
    (located : tree.locate true target = .ok place) (vacant : tree.find? place ≠ some .folder) :
    ∃ after, tree.copyFile source target = .ok after := by
  have looked := lookUp_eq_ok_iff.2 ((nodeAt?_eq_some_iff noLinks).1 original)
  have writable : tree.locateForWriting target = .ok place := by
    unfold locateForWriting
    rw [slashless]
    simp only [Bool.false_eq_true, if_false, located, bind, Except.bind]
    rfl
  exact ⟨_, copyFile_eq_ok_iff.2 ⟨_, _, _, looked, writable, rfl⟩⟩

end FileTree

end TagOrganizer
