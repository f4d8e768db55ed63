import TagOrganizer.Proofs.Path.Components

/-!
# Names of joined paths

Joining a name to a path adds it to the names of the path, and nothing else changes about where the
path leads.
-/

namespace TagOrganizer

namespace FileTree

variable {path : Path} {name : String}

theorem IsName.isAbsolute (proper : IsName name) : (Path.mk name).isAbsolute = false :=
  Path.isAbsolute_of_slashless proper.slashless

theorem IsName.isEmpty (proper : IsName name) : (Path.mk name).isEmpty = false :=
  Path.isEmpty_eq_false_iff.2 proper.filled

/-- A name that is joined to a path is the last one of the joined path. -/
theorem names_join (filled : path.isEmpty = false) (proper : IsName name) :
    names (path.join ⟨name⟩) = names path ++ [name] := by
  rcases Path.exists_segments_join filled proper.isAbsolute with
    ⟨front, idle, -, empty, segments, joined⟩
  have skipped : idle.filter (· != "") = [] := by simpa [List.filter_eq_nil_iff] using empty
  have kept : [name].filter (· != "") = [name] := by simp [proper.filled]
  rw [names, names, segments, joined, List.filter_append, List.filter_append, skipped,
    Path.segments_of_slashless proper.slashless, kept, List.append_nil]

end FileTree

end TagOrganizer
