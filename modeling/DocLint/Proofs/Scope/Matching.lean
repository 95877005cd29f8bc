import DocLint.Proofs.FileTree.Descent
import DocLint.Proofs.FileTree.Walk
import DocLint.Proofs.Validation.Stages

/-!
# All files of a base

Without version control the scope of a run are the files that can be reached from its base through
directories: each of them once, and in the order of their components.
-/
namespace DocLint

namespace FileTree

/-- Names lead from a directory to a file below it: through directories that are no links and hold
no data of version control, to a regular file or to a link that denotes one. -/
structure LeadsToFile (tree : FileTree) (base : String) (directory : Node) (names : List String) :
    Prop where
  named : names ≠ []
  through : ∀ front more, names = front ++ more → more ≠ [] →
    ∃ entries, directory.at? front = some (.directory entries)
  entered : ".git" ∉ names.dropLast
  leaf : (∃ bytes, directory.at? names = some (.file bytes)) ∨
    (∃ target, directory.at? names = some (.link target)) ∧
      tree.isFile (Path.below base names) = true

variable {tree : FileTree} {base : String} {entries : List (String × Node)}

theorem found_iff_leadsToFile {names : List String} :
    Found tree.isFile base (.directory entries) names ↔
      tree.LeadsToFile base (.directory entries) names := by
  have entered_iff : (∀ name ∈ names.dropLast, name ∉ skippedDirectories) ↔
      ".git" ∉ names.dropLast := by
    constructor
    · intro each member
      exact each _ member (List.mem_singleton.mpr rfl)
    · intro absent name member skipped
      rw [List.mem_singleton.mp skipped] at member
      exact absent member
  constructor
  · intro found
    have last : ∃ last, (Node.directory entries).at? names = some last := by
      rcases found.leaf with ⟨_, last⟩ | ⟨⟨_, last⟩, -⟩ <;> exact ⟨_, last⟩
    refine ⟨?_, ?_, entered_iff.mp found.entered, found.leaf⟩
    · rintro rfl
      exact not_found_directory_nil found
    · rintro front more rfl ne
      obtain ⟨_, last⟩ := last
      exact Node.directory_of_at? ne last
  · rintro ⟨-, -, entered, leaf⟩
    exact ⟨entered_iff.mpr entered, leaf⟩

theorem isFile_of_leadsToFile {names : List String} (wellFormed : tree.root.WellFormed)
    (resolved : tree.resolve base = .ok (.directory entries))
    (leads : tree.LeadsToFile base (.directory entries) names) :
    tree.isFile (Path.below base names) = true := by
  rcases leads.leaf with ⟨bytes, last⟩ | ⟨-, denotes⟩
  · exact isFile_iff.mpr ⟨bytes, resolve_below wellFormed resolved leads.named last (by simp)⟩
  · exact denotes

theorem wellFormed_of_resolve {path : String} {node : Node} (wellFormed : tree.root.WellFormed)
    (resolved : tree.resolve path = .ok node) : node.WellFormed := by
  obtain ⟨-, _, _, -, reached⟩ := resolve_eq_ok_iff.mp resolved
  exact (wellFormed.at? reached).1

end FileTree

namespace Scope

open FileTree

variable {tree : FileTree} {base : String} {entries : List (String × Node)}

theorem matchingFiles_of_directory (resolved : tree.resolve base = .ok (.directory entries))
    (filter : PathFilter) :
    matchingFiles tree base filter =
      (filesBelow tree.isFile base entries).filter filter.admits := by
  have noFile : tree.isFile base = false := by rw [isFile, resolved]
  rw [matchingFiles, noFile, walk, resolved]
  rfl

theorem mem_matchingFiles_iff (wellFormed : tree.root.WellFormed)
    (resolved : tree.resolve base = .ok (.directory entries)) (filter : PathFilter)
    (path : String) : path ∈ matchingFiles tree base filter ↔
      filter.admits path = true ∧ ∃ names, path = Path.below base names ∧
        tree.LeadsToFile base (.directory entries) names := by
  have sound := wellFormed_of_resolve wellFormed resolved
  rw [matchingFiles_of_directory resolved, List.mem_filter, mem_filesBelow sound, and_comm]
  simp only [found_iff_leadsToFile]

/-- The scope of a base that is a file is the base. The scope of a directory are the admitted paths
of all files that names lead to, each once and in the order of their components. -/
theorem matchingFiles_are_files_below (wellFormed : tree.root.WellFormed) (base : String)
    (filter : PathFilter) :
    (tree.isFile base = true → matchingFiles tree base filter = [base]) ∧
    ∀ entries, tree.resolve base = .ok (.directory entries) →
      (∀ path, path ∈ matchingFiles tree base filter ↔
        filter.admits path = true ∧ ∃ names, path = Path.below base names ∧
          tree.LeadsToFile base (.directory entries) names) ∧
      (matchingFiles tree base filter).Nodup ∧
      (matchingFiles tree base filter).Pairwise Path.Precedes ∧
      ∀ path ∈ matchingFiles tree base filter, tree.isFile path = true := by
  refine ⟨fun file => by rw [matchingFiles, if_pos file], fun entries resolved => ?_⟩
  have members := mem_matchingFiles_iff wellFormed resolved filter
  have sorted : (matchingFiles tree base filter).Pairwise Path.Precedes := by
    rw [matchingFiles_of_directory resolved]
    exact (pairwise_filesBelow (reaches_of_resolve resolved).1
      (wellFormed_of_resolve wellFormed resolved)).filter _
  refine ⟨members, sorted.imp ?_, sorted, fun path member => ?_⟩
  · rintro a b precedes rfl
    exact precedes.not_same (by simp [Path.same])
  · obtain ⟨-, names, rfl, leads⟩ := (members path).mp member
    exact isFile_of_leadsToFile wellFormed resolved leads

private def linkedEntries : List (String × Node) :=
  [(".git", .directory [("h", .file [])]), ("a", .directory [("z", .file [])]),
    ("a-", .link "../s"), ("a.", .file []), ("n", .link "m"), ("p", .link "a")]

private def linkedCorpus : FileTree where
  root := .directory [("d", .directory linkedEntries), ("s", .file [])]
  workDir := []

private theorem wellFormed_linkedCorpus : linkedCorpus.root.WellFormed := by
  have single : ∀ name, Path.IsName name → (Path.bytes name).length ≤ maxName →
      (Node.directory [(name, .file [])]).WellFormed := by
    intro name isName fits
    exact .directory (by simpa) (by simpa) (by simp) (by simpa using .file [])
  refine .directory (by decide) (by decide) (by decide) ?_
  rw [List.forall_mem_cons, List.forall_mem_singleton]
  refine ⟨.directory (by decide) (by decide) (by decide) ?_, .file _⟩
  simp only [linkedEntries, List.forall_mem_cons, List.not_mem_nil, false_implies, implies_true,
    and_true]
  exact ⟨single _ (by decide) (by decide), single _ (by decide) (by decide), .link _, .file _,
    .link _, .link _⟩

/-- What is listed has the order of the components, which is not that of the paths as texts. -/
theorem matchingFiles_of_linked_corpus :
    linkedCorpus.root.WellFormed ∧
    linkedCorpus.resolve "d" = .ok (.directory linkedEntries) ∧
    matchingFiles linkedCorpus "d" {} = ["d/a/z", "d/a-", "d/a."] ∧
    (∀ path, path ∈ ["d/a/z", "d/a-", "d/a."] ↔ PathFilter.admits {} path = true ∧
      ∃ names, path = Path.below "d" names ∧
        linkedCorpus.LeadsToFile "d" (.directory linkedEntries) names) ∧
    ["d/a/z", "d/a-", "d/a."].Pairwise Path.Precedes ∧
    ¬ ["d/a/z", "d/a-", "d/a."].Pairwise (· < ·) := by
  have resolved : linkedCorpus.resolve "d" = .ok (.directory linkedEntries) := by rfl
  have listed : matchingFiles linkedCorpus "d" {} = ["d/a/z", "d/a-", "d/a."] := by rfl
  obtain ⟨members, -, sorted, -⟩ :=
    (matchingFiles_are_files_below wellFormed_linkedCorpus "d" {}).2 _ resolved
  rw [listed] at members sorted
  exact ⟨wellFormed_linkedCorpus, resolved, listed, members, sorted, by decide⟩

end Scope
end DocLint
