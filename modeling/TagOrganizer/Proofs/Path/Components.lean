import TagOrganizer.Proofs.FileTree.Reach
import TagOrganizer.Proofs.Path.Join
import TagOrganizer.Proofs.Text.Fragment

/-!
# Components of paths

Without its `.` components a path has those of what it was joined from (`plainComponents_join`), the
path of its folder has a part of them from the beginning (`prefix_of_parent?`), and a path leads to
where its components lead, one after the other (`locationOf_plainComponents`).
-/

namespace TagOrganizer

namespace Path

/-- The components of a path other than `.`. -/
def plainComponents (path : Path) : List Component :=
  path.components.filter (· ≠ .here)

/-- What a path begins with before its segments are read. -/
def lead (path : Path) : List Component :=
  if path.isAbsolute then [.root] else if path.segments.head? = some "." then [.here] else []

/-- What stands for the root at the beginning of a path. -/
def anchor (path : Path) : List Component :=
  if path.isAbsolute then [.root] else []

variable {path below folder : Path} {name : String}

/-! ### Components are read from segments -/

theorem segments_ne_nil (path : Path) : path.segments ≠ [] := by
  simpa [segments, Text.splitAtChar] using Text.fragments_ne_nil '/' [] path.text.toList

theorem segments_append_slash (front back : List Char) :
    segments ⟨String.ofList (front ++ '/' :: back)⟩ =
      segments ⟨String.ofList front⟩ ++ segments ⟨String.ofList back⟩ := by
  simp only [segments, Text.splitAtChar, String.toList_ofList, Text.fragments_append_separator,
    List.map_append]

theorem segments_of_slashless (slashless : '/' ∉ name.toList) : segments ⟨name⟩ = [name] := by
  simp [segments, Text.splitAtChar, Text.fragments_of_not_mem [] slashless]

theorem isAbsolute_of_slashless (slashless : '/' ∉ name.toList) :
    (Path.mk name).isAbsolute = false := by
  rw [← Bool.not_eq_true]
  intro absolute
  simp only [isAbsolute, decide_eq_true_eq] at absolute
  exact slashless (List.mem_of_head? absolute)

@[simp]
theorem segments_ofList_nil : segments ⟨String.ofList []⟩ = [""] :=
  segments_of_slashless (by simp)

theorem head?_segments_of_isAbsolute (absolute : path.isAbsolute = true) :
    path.segments.head? = some "" := by
  simp only [isAbsolute, decide_eq_true_eq] at absolute
  rcases List.head?_eq_some_iff.1 absolute with ⟨rest, shape⟩
  have text : path = ⟨String.ofList ([] ++ '/' :: rest)⟩ := by
    rw [List.nil_append, ← shape, String.ofList_toList]
  rw [text, segments_append_slash, segments_ofList_nil]
  rfl

theorem components_eq (path : Path) :
    path.components = path.lead ++ path.segments.filterMap Component.ofSegment? := by
  have leading := @head?_segments_of_isAbsolute path
  unfold components lead
  cases shape : path.segments with
  | nil => exact absurd shape path.segments_ne_nil
  | cons first rest =>
      rw [shape, List.head?_cons] at leading
      simp only [List.head?_cons, Option.some.injEq] at leading ⊢
      split
      · rename_i absolute
        rw [leading absolute]
        rfl
      · split
        · rename_i current
          rw [current]
          rfl
        · cases read : Component.ofSegment? first with
          | none => simp [read]
          | some component => simp [read]

@[simp]
theorem components_empty : empty.components = [] := by
  have segments : empty.segments = [""] := segments_of_slashless (by simp)
  rw [components_eq, lead, segments]
  rfl

@[simp]
theorem plainComponents_empty : empty.plainComponents = [] := by
  rw [plainComponents, components_empty]
  rfl

theorem ofSegment?_ne_here {segment : String} :
    Component.ofSegment? segment ≠ some .here := by
  unfold Component.ofSegment?
  split
  · simp
  · split <;> simp

theorem ofSegment?_ne_root {segment : String} :
    Component.ofSegment? segment ≠ some .root := by
  unfold Component.ofSegment?
  split
  · simp
  · split <;> simp

theorem plainComponents_eq (path : Path) :
    path.plainComponents = path.anchor ++ path.segments.filterMap Component.ofSegment? := by
  have read : (path.segments.filterMap Component.ofSegment?).filter (· ≠ .here) =
      path.segments.filterMap Component.ofSegment? := by
    rw [List.filter_eq_self]
    intro component present
    rcases List.mem_filterMap.1 present with ⟨segment, -, stands⟩
    rw [decide_eq_true_eq]
    rintro rfl
    exact ofSegment?_ne_here stands
  rw [plainComponents, components_eq, List.filter_append, read]
  unfold lead anchor
  split
  · rfl
  · split <;> rfl

/-- Empty segments stand for no component. -/
theorem plainComponents_eq_names (path : Path) :
    path.plainComponents =
      path.anchor ++ (FileTree.names path).filterMap Component.ofSegment? := by
  rw [plainComponents_eq, FileTree.names, List.filterMap_filter]
  congr 2
  funext segment
  by_cases empty : segment = ""
  · simp [empty, Component.ofSegment?]
  · simp [empty]

theorem root_mem_components_iff : .root ∈ path.components ↔ path.isAbsolute = true := by
  rw [components_eq, List.mem_append]
  constructor
  · rintro (leading | read)
    · unfold lead at leading
      split at leading
      · assumption
      · split at leading <;> simp at leading
    · rcases List.mem_filterMap.1 read with ⟨segment, -, stands⟩
      exact absurd stands ofSegment?_ne_root
  · intro absolute
    rw [lead, if_pos absolute]
    exact .inl (by simp)

/-- A text is a single component iff it is a name that leads to an entry of its folder. -/
theorem components_of_slashless (slashless : '/' ∉ name.toList) {other : String}
    (single : components ⟨name⟩ = [.name other]) : components ⟨name⟩ = [.name name] := by
  rw [components_eq, lead, segments_of_slashless slashless,
    isAbsolute_of_slashless slashless] at single ⊢
  simp only [Bool.false_eq_true, if_false, List.head?_cons, Option.some.injEq] at single ⊢
  split at single
  · cases single
  · rename_i proper
    unfold Component.ofSegment? at single ⊢
    rw [if_neg proper]
    by_cases idle : name = "" ∨ name = "."
    · simp [idle] at single
    · by_cases up : name = ".."
      · simp [up] at single
      · simp [idle, up]

/-! ### Components of joined paths -/

/-- What is joined to a path comes behind its segments, of which an empty last one is left out. -/
theorem exists_segments_join (filled : path.isEmpty = false) (relative : below.isAbsolute = false) :
    ∃ front idle, front ≠ [] ∧ (∀ segment ∈ idle, segment = "") ∧
      path.segments = front ++ idle ∧ (path.join below).segments = front ++ below.segments := by
  rw [join_of_relative relative filled, gap]
  split
  · rename_i ended
    rcases List.getLast?_eq_some_iff.1 ended with ⟨front, shape⟩
    have text : path = ⟨String.ofList (front ++ '/' :: [])⟩ := by
      rw [← shape, String.ofList_toList]
    have whole : path.text ++ "" ++ below.text =
        String.ofList (front ++ '/' :: below.text.toList) := by
      rw [text, ← String.toList_inj]
      simp
    refine ⟨segments ⟨String.ofList front⟩, [""], segments_ne_nil _, by simp, ?_, ?_⟩
    · rw [text, segments_append_slash, segments_ofList_nil]
    · rw [whole, segments_append_slash, String.ofList_toList]
  · have whole : path.text ++ "/" ++ below.text =
        String.ofList (path.text.toList ++ '/' :: below.text.toList) := by
      rw [← String.toList_inj]
      simp
    refine ⟨path.segments, [], path.segments_ne_nil, by simp, by simp, ?_⟩
    rw [whole, segments_append_slash, String.ofList_toList, String.ofList_toList]

theorem filterMap_ofSegment?_of_idle {idle : List String} (empty : ∀ segment ∈ idle, segment = "") :
    idle.filterMap Component.ofSegment? = [] := by
  rw [List.filterMap_eq_nil_iff]
  intro segment present
  rw [empty segment present]
  rfl

theorem components_join (filled : path.isEmpty = false) (relative : below.isAbsolute = false) :
    (path.join below).components =
      path.components ++ below.segments.filterMap Component.ofSegment? := by
  rcases exists_segments_join filled relative with ⟨front, idle, begun, empty, segments, joined⟩
  have leads : (path.join below).lead = path.lead := by
    unfold lead
    rw [isAbsolute_join filled relative, segments, joined, List.head?_append_of_ne_nil _ begun,
      List.head?_append_of_ne_nil _ begun]
  rw [components_eq, components_eq, leads, segments, joined, List.filterMap_append,
    List.filterMap_append, filterMap_ofSegment?_of_idle empty, List.append_nil, List.append_assoc]

/-- Without its `.` components a joined path has those of the two paths that it was joined from. -/
theorem plainComponents_join (relative : below.isAbsolute = false) :
    (path.join below).plainComponents = path.plainComponents ++ below.plainComponents := by
  cases filled : path.isEmpty with
  | true =>
      rw [isEmpty_iff.1 filled, empty_join, plainComponents_empty, List.nil_append]
  | false =>
      have read : below.plainComponents = below.segments.filterMap Component.ofSegment? := by
        rw [plainComponents_eq, anchor, relative]
        rfl
      have kept : below.plainComponents.filter (· ≠ .here) = below.plainComponents := by
        rw [plainComponents, List.filter_filter]
        simp
      rw [read] at kept ⊢
      rw [plainComponents, components_join filled relative, List.filter_append, kept]
      rfl

theorem startsWith_join (relative : below.isAbsolute = false) :
    path.components <+: (path.join below).components := by
  cases filled : path.isEmpty with
  | true =>
      rw [isEmpty_iff.1 filled, components_empty]
      exact List.nil_prefix
  | false =>
      rw [components_join filled relative]
      exact List.prefix_append _ _

/-! ### The path of a folder -/

theorem suffix_dropIdle (relative : Bool) (back : List String) :
    dropIdle relative back <:+ back := by
  induction back with
  | nil => exact List.suffix_refl []
  | cons segment earlier ih =>
      unfold dropIdle
      split
      · exact List.suffix_refl _
      · split
        · rename_i last
          have alone : earlier = [] := List.isEmpty_iff.1 last.2.1
          subst alone
          exact List.suffix_refl _
        · exact ih.trans (List.suffix_cons segment earlier)

theorem head?_dropIdle_ne (relative : Bool) (back : List String) :
    (dropIdle relative back).head? ≠ some "" := by
  induction back with
  | nil => simp [dropIdle]
  | cons segment earlier ih =>
      unfold dropIdle
      split
      · rename_i stands
        rintro same
        cases same
        cases stands
      · split
        · rename_i last
          rw [last.2.2]
          simp
        · exact ih

theorem intercalate_append_cons (separator : List Char) {front : List (List Char)}
    (filled : front ≠ []) (piece : List Char) (back : List (List Char)) :
    separator.intercalate (front ++ piece :: back) =
      separator.intercalate front ++ separator ++ separator.intercalate (piece :: back) := by
  induction front with
  | nil => exact absurd rfl filled
  | cons first front ih =>
      cases front with
      | nil => simp [List.intercalate]
      | cons second front =>
          have later := ih (by simp)
          simp only [List.intercalate, List.cons_append, List.intersperse_cons_cons,
            List.flatten_cons] at later ⊢
          rw [later]
          simp

theorem exists_text_of_segments {front back : List String} (filled : front ≠ []) {last : String}
    (shape : path.segments = front ++ last :: back) :
    ∃ rest, path.text.toList = ("/".intercalate front).toList ++ '/' :: rest := by
  have pieces : Text.fragments '/' [] path.text.toList =
      front.map String.toList ++ last.toList :: back.map String.toList := by
    have texts := congrArg (List.map String.toList) shape
    simpa [segments, Text.splitAtChar, Function.comp_def] using texts
  have whole := Text.join_fragments '/' [] path.text.toList
  rw [pieces, intercalate_append_cons _ (by simpa using filled)] at whole
  refine ⟨['/'].intercalate (last.toList :: back.map String.toList), ?_⟩
  rw [← whole, String.toList_intercalate]
  simp

theorem intercalate_ne_empty (front : List String) {last : String} (filled : last ≠ "") :
    "/".intercalate (front ++ [last]) ≠ "" := by
  intro nothing
  have chars := congrArg String.toList nothing
  rw [String.toList_intercalate, List.map_append, List.map_singleton] at chars
  cases front with
  | nil => exact filled (by simpa [List.intercalate] using chars)
  | cons first front =>
      rw [intercalate_append_cons _ (by simp)] at chars
      simp at chars

theorem prefix_of_text {rest : List Char} (filled : folder.text ≠ "")
    (text : path.text.toList = folder.text.toList ++ '/' :: rest) :
    folder.plainComponents <+: path.plainComponents := by
  have whole : path = ⟨String.ofList (folder.text.toList ++ '/' :: rest)⟩ := by
    rw [← text, String.ofList_toList]
  have anchors : folder.anchor = path.anchor := by
    have chars : folder.text.toList ≠ [] := by simpa using filled
    unfold anchor isAbsolute
    rw [text, List.head?_append_of_ne_nil _ chars]
  rw [plainComponents_eq, plainComponents_eq path, anchors, List.prefix_append_right_inj]
  apply List.IsPrefix.filterMap
  rw [whole, segments_append_slash, String.ofList_toList]
  exact List.prefix_append _ _

theorem prefix_of_anchor (path : Path) :
    plainComponents ⟨if path.isAbsolute then "/" else ""⟩ <+: path.plainComponents := by
  rw [plainComponents_eq path, anchor]
  cases path.isAbsolute with
  | true =>
      have root : plainComponents ⟨"/"⟩ = [.root] := by
        have text : (⟨"/"⟩ : Path) = ⟨String.ofList ([] ++ '/' :: [])⟩ := by simp
        rw [plainComponents_eq, text, segments_append_slash, segments_ofList_nil]
        rfl
      rw [if_pos rfl, if_pos rfl, root]
      exact List.prefix_append _ _
  | false =>
      have nothing : plainComponents ⟨""⟩ = [] := plainComponents_empty
      rw [if_neg Bool.false_ne_true, nothing]
      exact List.nil_prefix

/-- The path of a folder has components of the path of what lies in it, from the beginning. -/
theorem prefix_of_parent? (lies : path.parent? = some folder) :
    folder.plainComponents <+: path.plainComponents := by
  unfold parent? at lies
  simp only at lies
  split at lies
  · cases lies
  · rename_i last earlier back
    cases kept : dropIdle (!path.isAbsolute) earlier with
    | nil =>
        rw [kept] at lies
        cases lies
        exact path.prefix_of_anchor
    | cons segment before =>
        have filled : segment ≠ "" := by
          rintro rfl
          exact head?_dropIdle_ne (!path.isAbsolute) earlier (by rw [kept]; rfl)
        rw [kept] at lies
        cases lies
        -- What `dropIdle` keeps comes before the segment that it was called behind.
        have shape : ∃ last rest, path.segments = (segment :: before).reverse ++ last :: rest := by
          rcases suffix_dropIdle (!path.isAbsolute) path.segments.reverse with ⟨idle, whole⟩
          rcases suffix_dropIdle (!path.isAbsolute) earlier with ⟨between, inner⟩
          rw [back, ← inner, kept] at whole
          have segments := congrArg List.reverse whole
          simp only [List.reverse_append, List.reverse_cons, List.reverse_reverse] at segments ⊢
          cases rest : between.reverse with
          | nil => exact ⟨last, idle.reverse, by simpa [rest] using segments.symm⟩
          | cons first others =>
              exact ⟨first, others ++ last :: idle.reverse, by simpa [rest] using segments.symm⟩
        rcases shape with ⟨next, rest, shape⟩
        rcases exists_text_of_segments (by simp) shape with ⟨tail, text⟩
        refine prefix_of_text ?_ text
        rw [List.reverse_cons]
        exact intercalate_ne_empty _ filled

end Path

/-! ### Where components lead -/

namespace FileTree

/-- Where a component of a path leads from a location. -/
def afterComponent (location : Location) : Path.Component → Location
  | .root => []
  | .here => location
  | .up => location.dropLast
  | .name name => location ++ [name]

/-- Where the components of a path lead, if they lead anywhere. -/
def locationOf (here : Location) (components : List Path.Component) : Location :=
  components.foldl afterComponent here

variable {here : Location} {components : List Path.Component}

theorem locationOf_append (here : Location) (front back : List Path.Component) :
    locationOf here (front ++ back) = locationOf (locationOf here front) back :=
  List.foldl_append

theorem locationOf_ofSegment? (here : Location) (segments : List String) :
    locationOf here (segments.filterMap Path.Component.ofSegment?) =
      resolve here (segments.filter (· != "")) := by
  unfold locationOf resolve
  rw [List.foldl_filterMap, List.foldl_filter]
  congr 1
  funext location segment
  unfold Path.Component.ofSegment? afterStep
  by_cases idle : segment = ""
  · simp [idle]
  · by_cases current : segment = "."
    · simp [current]
    · by_cases up : segment = ".."
      · simp [up, afterComponent]
      · simp [idle, current, up, afterComponent]

theorem locationOf_plainComponents (here : Location) (path : Path) :
    locationOf here path.plainComponents = lexical here path := by
  rw [Path.plainComponents_eq, locationOf_append, locationOf_ofSegment?, lexical, names]
  unfold Path.anchor
  split <;> rfl

theorem exists_locationOf_eq_append (here : Location)
    (named : ∀ component ∈ components, ∃ name, component = .name name) :
    ∃ along : List String, along.length = components.length ∧
      locationOf here components = here ++ along := by
  induction components generalizing here with
  | nil => exact ⟨[], rfl, by rw [List.append_nil]; rfl⟩
  | cons component components ih =>
      rcases named component (by simp) with ⟨name, rfl⟩
      rcases ih (here ++ [name]) (fun other present => named other (by simp [present])) with
        ⟨along, length, leads⟩
      refine ⟨name :: along, by simp [length], ?_⟩
      rw [List.append_cons, ← leads]
      rfl

end FileTree

end TagOrganizer
