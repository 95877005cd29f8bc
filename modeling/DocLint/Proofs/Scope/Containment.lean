import DocLint.Proofs.Scope.Changed
import DocLint.Proofs.Scope.Matching

/-!
# Reported files and all files

When a reported file is one of those that a run without version control looks at: below a
directory, if it is a regular file and passes the filter as it is spelled there; for a base that is
a file, if it is the base. What is reported beside the base, and directories, are in scope
nevertheless.
-/
namespace DocLint.Scope

open FileTree

/-- A path that leads from a directory through no link and no data of version control, with the
names that it is made of. -/
structure PlainReport (directory : Node) (path : String) (names : List String) : Prop where
  components_eq : Path.components path = names.map .name
  entered : ".git" ∉ names.dropLast
  direct : Direct directory names

variable {tree : FileTree} {vcs : Vcs} {base : String} {options : ModeOptions}
  {filter : PathFilter} {entries : List (String × Node)} {path : String} {names : List String}

theorem same_join_below (ne : base ≠ "") (only : Path.NamesOnly path names) :
    Path.components (Path.join base path) = Path.components (Path.below base names) := by
  rw [Path.components_join ne only.relative, only.inner_eq,
    (Path.Extends.below ne only.named).components_eq]

/-- A regular file to which a plain report leads is one to which its names lead. -/
theorem leadsToFile_of_plainReport
    (resolved : tree.resolve base = .ok (.directory entries))
    (plain : PlainReport (.directory entries) path names)
    (file : tree.isFile (Path.join base path) = true) :
    tree.LeadsToFile base (.directory entries) names := by
  obtain ⟨bytes, denotes⟩ := isFile_iff.mp file
  have only := Path.namesOnly_of_components plain.components_eq
  obtain ⟨ne, _, place, toBase, here⟩ := reaches_of_resolve resolved
  obtain ⟨_, found, reaches, atEnd⟩ := reaches_of_namesOnly ne only denotes
  obtain ⟨_, between, toBase', fromBase⟩ := reaches.split
  cases toBase.found_unique toBase'
  obtain ⟨last, below, place_eq⟩ := at?_of_reaches only.named here plain.direct fromBase
  have named : names ≠ [] := by
    rintro rfl
    cases fromBase
    rw [here] at atEnd
    cases atEnd
  refine ⟨named, fun front more eq ne_nil => ?_, plain.entered, ?_⟩
  · rw [eq] at below
    exact Node.directory_of_at? ne_nil below
  · cases last with
    | file bytes => exact .inl ⟨bytes, below⟩
    | link target => exact .inr ⟨⟨target, below⟩,
        isFile_iff.mpr ⟨_, resolve_respelled ne named only denotes⟩⟩
    | directory inner =>
      rw [place_eq (by simp), List.reverse_append, List.reverse_reverse, Node.at?_append, here,
        Option.bind_some, below] at atEnd
      cases atEnd

/-- A reported path is in the scope of a directory exactly if it is a regular file and passes the
filter as it is spelled there. -/
theorem same_mem_matchingFiles_iff (wellFormed : tree.root.WellFormed)
    (resolved : tree.resolve base = .ok (.directory entries))
    (plain : PlainReport (.directory entries) path names)
    (present : tree.exists? (Path.join base path) = true) :
    (∃ file ∈ matchingFiles tree base filter, Path.same file (Path.join base path) = true) ↔
      tree.isFile (Path.join base path) = true ∧
        filter.admits (Path.below base names) = true := by
  have only := Path.namesOnly_of_components plain.components_eq
  obtain ⟨ne, -⟩ := reaches_of_resolve resolved
  have spelled := same_join_below ne only
  constructor
  · rintro ⟨file, member, same⟩
    obtain ⟨admitted, others, rfl, leads⟩ :=
      (mem_matchingFiles_iff wellFormed resolved filter file).mp member
    rw [Path.same_iff_components_eq, spelled] at same
    have sound := wellFormed_of_resolve wellFormed resolved
    have named : ∀ name ∈ others, Path.IsName name := fun name inside =>
      ((found_iff_leadsToFile.mpr leads).named sound name inside).1
    cases (Path.Extends.below ne named).names_unique (Path.Extends.below ne only.named) same
    refine ⟨?_, admitted⟩
    obtain ⟨bytes, file⟩ := isFile_iff.mp (isFile_of_leadsToFile wellFormed resolved leads)
    rw [exists?] at present
    split at present
    case h_2 => cases present
    case h_1 node denotes =>
      rw [resolve_respelled ne leads.named only denotes] at file
      cases file
      exact isFile_iff.mpr ⟨bytes, denotes⟩
  · rintro ⟨file, admitted⟩
    refine ⟨Path.below base names, ?_, ?_⟩
    · exact (mem_matchingFiles_iff wellFormed resolved filter _).mpr
        ⟨admitted, names, rfl, leadsToFile_of_plainReport resolved plain file⟩
    · rw [Path.same_iff_components_eq, spelled]

/-- A run with version control looks at a path that a run without it does not look at exactly in
these cases: the base is a file and the path is another one; or the base is a directory and the path
is no regular file, or is refused by the filter when it is spelled as the names that lead to it. -/
theorem changed_in_matching_iff {calls : List VcsCall} {files : List String}
    (wellFormed : tree.root.WellFormed)
    (ran : resolve tree vcs base .changed options = (calls, .ok files)) :
    ∃ filter reported scope, options.fileFilter = .ok filter ∧
      vcs.changed options.branchName = .ok reported ∧
      resolve tree vcs base .matching options = ([], .ok scope) ∧
      (∀ path ∈ files, ∃ l ∈ reported, path = Path.join (rootOf tree base) l) ∧
      (tree.isFile base = true → ∀ path ∈ files,
        (∃ file ∈ scope, Path.same file path = true) ↔ Path.same base path = true) ∧
      (tree.isFile base = false → ∃ entries, tree.resolve base = .ok (.directory entries) ∧
        ∀ l ∈ reported, ∀ names, PlainReport (.directory entries) l names →
          Path.join base l ∈ files →
          ((∃ file ∈ scope, Path.same file (Path.join base l) = true) ↔
            tree.isFile (Path.join base l) = true ∧
              filter.admits (Path.below base names) = true)) := by
  obtain ⟨present, filter, reported, read, -, changed, -, rfl⟩ := resolve_changed_eq_ok_iff.mp ran
  refine ⟨filter, reported, matchingFiles tree base filter, read, changed,
    resolve_matching present read, fun path member => (mem_changedFiles member).1, ?_, ?_⟩
  · intro file path _
    rw [matchingFiles, if_pos file]
    simp
  · intro noFile
    obtain ⟨entries, resolved⟩ :=
      (file_or_directory_of_exists present).resolve_left (by simp [noFile])
    refine ⟨entries, resolved, fun l _ names plain member => ?_⟩
    exact same_mem_matchingFiles_iff wellFormed resolved plain (mem_changedFiles member).2.1

private def mixedEntries : List (String × Node) := [("b", .file []), ("e", .directory [])]

private def mixedCorpus : FileTree where
  root := .directory [("d", .directory mixedEntries)]
  workDir := []

private def reporting (paths : List String) : Vcs where
  fetch _ _ := .ok ()
  changed _ := .ok paths

private def anyName : ModeOptions where
  includePattern := some ""

/-- A directory that is reported is in scope, but not in the full one. -/
theorem changed_in_matching_of_mixed :
    resolve mixedCorpus (reporting ["b", "e"]) "d" .changed anyName =
        ([.fetch "origin" "main", .diff "main"], .ok ["d/b", "d/e"]) ∧
      ∃ filter scope, anyName.fileFilter = .ok filter ∧
        resolve mixedCorpus (reporting ["b", "e"]) "d" .matching anyName = ([], .ok scope) ∧
        ((∃ file ∈ scope, Path.same file "d/e" = true) ↔
          mixedCorpus.isFile "d/e" = true ∧ filter.admits "d/e" = true) ∧
        ¬ ∃ file ∈ scope, Path.same file "d/e" = true := by
  have wellFormed : mixedCorpus.root.WellFormed := by
    refine .directory (by decide) (by decide) (by decide) (List.forall_mem_singleton.mpr ?_)
    refine .directory (by decide) (by decide) (by decide) ?_
    rw [mixedEntries, List.forall_mem_cons, List.forall_mem_singleton]
    exact ⟨.file _, .directory (by simp) (by simp) .nil (by simp)⟩
  have ran : resolve mixedCorpus (reporting ["b", "e"]) "d" .changed anyName =
      ([.fetch "origin" "main", .diff "main"], .ok ["d/b", "d/e"]) := rfl
  have noFile : mixedCorpus.isFile "d" = false := rfl
  have innerNoFile : mixedCorpus.isFile "d/e" = false := rfl
  have found : mixedCorpus.resolve "d" = .ok (.directory mixedEntries) := rfl
  obtain ⟨filter, reported, scope, read, changed, matching, -, -, ofDirectory⟩ :=
    changed_in_matching_iff wellFormed ran
  obtain ⟨entries, resolved, inScope⟩ := ofDirectory noFile
  cases found.symm.trans resolved
  cases changed
  have plain : PlainReport (.directory mixedEntries) "e" ["e"] :=
    ⟨rfl, by decide, direct_singleton _ _⟩
  have joined : Path.join "d" "e" = "d/e" := rfl
  have iff := inScope "e" (by simp) ["e"] plain (by simp [joined])
  rw [joined, Path.below, List.foldl_cons, List.foldl_nil, joined] at iff
  refine ⟨ran, filter, scope, read, matching, iff, fun within => ?_⟩
  exact absurd (iff.mp within).1 (by simp [innerNoFile])

private def siblings : FileTree where
  root := .directory [("a.md", .file [65]), ("b.md", .file [66])]
  workDir := []

/-- A file beside the base is in scope when it is reported, though the base is a file and the whole
of what is looked at otherwise. -/
theorem changed_leaves_file_base :
    siblings.root.WellFormed ∧ siblings.isFile "a.md" = true ∧
      Path.components "b.md" = [.name "b.md"] ∧
      resolve siblings (reporting ["b.md"]) "a.md" .changed {} =
        ([.fetch "origin" "main", .diff "main"], .ok ["b.md"]) ∧
      resolve siblings (reporting ["b.md"]) "a.md" .matching {} = ([], .ok ["a.md"]) ∧
      Path.same "a.md" "b.md" = false := by
  refine ⟨.directory (by decide) (by decide) (by decide) ?_, rfl, rfl, rfl, rfl, rfl⟩
  rw [List.forall_mem_cons, List.forall_mem_singleton]
  exact ⟨.file _, .file _⟩

end DocLint.Scope
