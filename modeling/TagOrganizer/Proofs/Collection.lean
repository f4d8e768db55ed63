import TagOrganizer.Collection
import TagOrganizer.Proofs.Act

/-!
# What is collected

Every file that a scan reports is at a path that is listed below one of the folders of the scan.
-/

namespace TagOrganizer

namespace Collector

open Act

variable {tree : FileTree} {options : ScanOptions} {folders : List Path}

/-- Whether a path is listed below one of the folders. -/
def Listed (tree : FileTree) (options : ScanOptions) (folders : List Path) (path : Path) : Prop :=
  ∃ folder ∈ folders, ∃ location, tree.lookUp true folder = .ok (location, .folder) ∧
    .ok path ∈ tree.filesBelow options.recursive options.hidden location folder

/-- Whether all files that have been collected are at admitted paths. -/
def FilesAt (admitted : Path → Prop) (collector : Collector) : Prop :=
  ∀ file ∈ collector.files, admitted file.location

variable {admitted : Path → Prop}

theorem location_of_ofName {name : String} {path : Path} {formats : List TagFormat}
    {ignored : List Pattern} {file : TaggedFile}
    (read : (TaggedFile.ofName name path formats ignored).value = some file) :
    file.location = path := by
  unfold TaggedFile.ofName at read
  split at read
  · cases read
  · split at read
    · cases read
    · cases read
      rfl

theorem keeps_loadFile {path : Path} (listed : admitted path) :
    Keeps (FilesAt admitted) (loadFile tree path) := by
  intro collector holds
  unfold loadFile
  split
  · exact holds
  · rename_i name named
    rw [ends_bind, ends_get]
    simp only
    split
    · exact holds
    · rw [ends_bind, ends_logged]
      cases read : (TaggedFile.ofName name path collector.formats collector.ignored).value with
      | none => exact holds
      | some file =>
          intro other present
          rcases List.mem_append.1 present with before | last
          · exact holds other before
          · rw [List.mem_singleton.1 last, location_of_ofName read]
            exact listed

theorem keeps_loadReached {reached : Except FileTree.Unread Path}
    (listed : ∀ path, reached = .ok path → admitted path) :
    Keeps (FilesAt admitted) (loadReached tree reached) := by
  cases reached with
  | ok path => exact keeps_bind (keeps_loadFile (listed path rfl)) fun _ => keeps_pure _
  | error unread => exact keeps_tell _

theorem keeps_loadFolder {folder : Path} (among : folder ∈ folders) :
    Keeps (FilesAt (Listed tree options folders)) (loadFolder tree options folder) := by
  unfold loadFolder
  split
  · rename_i location looked
    have found : tree.lookUp true folder = .ok (location, .folder) := by
      revert looked
      cases tree.lookUp true folder with
      | error fault => simp [Except.toOption]
      | ok place => simp [Except.toOption]
    refine keeps_bind keeps_get ?_
    intro collector
    refine keeps_bind (keeps_forIn ?_) (fun _ => keeps_bind keeps_get fun _ => keeps_pure _)
    intro reached listed _
    refine keeps_bind (keeps_loadReached ?_) fun _ => keeps_pure _
    rintro path rfl
    exact ⟨folder, among, location, found, listed⟩
  · exact keeps_bind (keeps_tell _) fun _ => keeps_throw _

theorem files_of_ends_scan {collector after : Collector} {report : Report}
    (ended : (scan tree options folders).ends collector = (.ok report, after)) :
    report.files = after.files := by
  unfold scan at ended
  rw [ends_bind_eq_ok_iff] at ended
  rcases ended with ⟨messages, between, -, rest⟩
  rw [ends_bind, ends_get] at rest
  cases rest
  rfl

/-- A scan that begins with nothing reports files that are listed below its folders. -/
theorem listed_of_ends_scan {collector after : Collector} {report : Report}
    (fresh : collector.files = [])
    (ended : (scan tree options folders).ends collector = (.ok report, after)) :
    ∀ file ∈ report.files, Listed tree options folders file.location := by
  have kept : Keeps (FilesAt (Listed tree options folders)) (scan tree options folders) := by
    unfold scan
    refine keeps_bind (keeps_mapM ?_) (fun _ => keeps_bind keeps_get fun _ => keeps_pure _)
    intro folder among
    exact keeps_bind (keeps_loadFolder among) fun _ => keeps_pure _
  have start : FilesAt (Listed tree options folders) collector := by
    intro file present
    rw [fresh] at present
    cases present
  have last := kept collector start
  rw [ended] at last
  rw [files_of_ends_scan ended]
  exact last

/-! ### Names to be ignored -/

theorem keeps_addIgnorePattern (text : String) :
    Keeps (fun collector => collector.files = []) (addIgnorePattern text) := by
  unfold addIgnorePattern
  split
  · exact fun _ holds => holds
  · exact keeps_tell _

/-- Reading names to be ignored collects nothing. -/
theorem keeps_loadIgnoreFile (path : Path) :
    Keeps (fun collector => collector.files = []) (loadIgnoreFile tree path) := by
  unfold loadIgnoreFile
  split
  · refine keeps_bind ?_ (fun _ => keeps_tell _)
    unfold addIgnorePatterns
    refine keeps_bind (keeps_forIn ?_) (fun _ => keeps_bind keeps_get fun _ => keeps_tell _)
    intro line _ _
    exact keeps_bind (keeps_addIgnorePattern line) fun _ => keeps_pure _
  · exact keeps_bind (keeps_tell _) fun _ => keeps_throw _

end Collector

end TagOrganizer
