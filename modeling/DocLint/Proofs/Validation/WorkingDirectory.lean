import DocLint.Proofs.Scope.Changed

/-!
# Where version control works

The program for version control prints paths that are relative to the directory in which it runs,
and a run joins them to the root of its base. These two are one directory, though they are spelled
differently for a base that is a bare name: the program runs in `.`, and its answers are taken as
they are. So a path leads to the same file from either of them.
-/
namespace DocLint

namespace FileTree

variable {tree : FileTree} {entries : List (String × Node)} {last : Bool} {links : Nat}
  {place path : List String} {l : String}

/-- A step that stays in a directory may be left out, also where a link at the end is not
followed. -/
theorem follow_here (inside : tree.root.at? place.reverse = some (.directory entries)) :
    tree.follow last links place ("." :: path) = tree.follow last links place path := by
  rw [follow_cons, inside]
  simp

theorem steps_dot_slash (ne : l ≠ "") : steps ("./" ++ l) = "." :: steps l := by
  have dot : Path.pieces "." = ["."] := Path.pieces_of_noSlash (by simp)
  have cut : Path.pieces ("./" ++ l) = "." :: Path.pieces l := by
    have pieces := Path.pieces_append_slash "." l
    rwa [dot] at pieces
  have more : l.toList ≠ [] := fun nil => ne (String.toList_eq_nil_iff.mp nil)
  have ending : ("./" ++ l).toList.getLast? = l.toList.getLast? := by
    rw [String.toList_append, List.getLast?_append_of_ne_nil _ more]
  rw [steps, steps, cut, ending]
  by_cases slash : l.toList.getLast? = some '/' <;> simp [slash]

/-- From the working directory a path leads to the same place with and without a `.` in front. -/
theorem locate_join_dot (inside : tree.root.at? tree.workDir = some (.directory entries))
    (ne : l ≠ "") (last : Bool) :
    tree.locate last (Path.join "." l) = tree.locate last (Path.join "" l) := by
  cases absolute : Path.isAbsolute l with
  | true => simp [Path.join, absolute]
  | false =>
    have dotted : Path.join "." l = "./" ++ l := by simp [Path.join, absolute]
    have bare : Path.join "" l = l := by simp [Path.join, absolute]
    have relative : Path.isAbsolute ("./" ++ l) = false := by simp [Path.isAbsolute]
    have here : tree.root.at? tree.workDir.reverse.reverse = some (.directory entries) := by
      rwa [List.reverse_reverse]
    rw [dotted, bare, locate, locate, steps_dot_slash ne]
    simp [ne, absolute, relative, follow_here here]

theorem locate_dot (inside : tree.root.at? tree.workDir = some (.directory entries)) :
    tree.locate true "." = .ok tree.workDir ∧ tree.locate true "./" = .ok tree.workDir := by
  have here : tree.root.at? tree.workDir.reverse.reverse = some (.directory entries) := by
    rwa [List.reverse_reverse]
  have one : steps "." = ["."] := rfl
  have two : steps "./" = [".", "."] := rfl
  constructor
  · simp [locate, one, follow_here here, Path.isAbsolute, follow_nil, Except.map]
  · simp [locate, two, follow_here here, Path.isAbsolute, follow_nil, Except.map]

end FileTree

variable {tree : FileTree} {base work root l : String} {place : List String}

/-- A place in which a program can run and which a root stands for when paths are joined to it. The
two are spelled alike; but an empty root stands for the working directory. -/
structure WorksIn (tree : FileTree) (work root : String) (place : List String) : Prop where
  located : tree.locate true work = .ok place
  isDirectory : ∃ entries, tree.root.at? place = some (.directory entries)
  spelled : work = root ∨ work = "." ∧ root = "" ∧ place = tree.workDir

/-- A base that exists has such a place, whatever it is and however it is spelled. -/
theorem exists_worksIn (present : tree.exists? base = true) :
    ∃ place, WorksIn tree (vcsDirectory tree base) (Scope.rootOf tree base) place := by
  rcases FileTree.file_or_directory_of_exists present with file | ⟨entries, resolved⟩
  · obtain ⟨bytes, resolved⟩ := FileTree.isFile_iff.mp file
    obtain ⟨parent, isParent⟩ := FileTree.exists_parent_of_isFile file
    obtain ⟨place, entries, inside, bare, located⟩ :=
      FileTree.directory_of_parent? isParent resolved
    have isRoot : Scope.rootOf tree base = parent := by simp [Scope.rootOf, file, isParent]
    rw [isRoot]
    by_cases empty : parent = ""
    · have work : vcsDirectory tree base = "." := by simp [vcsDirectory, file, isParent, empty]
      obtain ⟨-, rfl⟩ := bare empty
      rw [work]
      exact ⟨tree.workDir, (FileTree.locate_dot inside).1, ⟨entries, inside⟩,
        .inr ⟨rfl, empty, rfl⟩⟩
    · have work : vcsDirectory tree base = parent := by
        simp [vcsDirectory, file, isParent, empty]
      rw [work]
      exact ⟨place, located empty, ⟨entries, inside⟩, .inl rfl⟩
  · have noFile : tree.isFile base = false := by simp [FileTree.isFile, resolved]
    obtain ⟨place, located, inside⟩ := FileTree.resolve_eq_ok_iff_located.mp resolved
    have work : vcsDirectory tree base = base := by simp [vcsDirectory, noFile]
    have isRoot : Scope.rootOf tree base = base := by simp [Scope.rootOf, noFile]
    rw [work, isRoot]
    exact ⟨place, located, ⟨entries, inside⟩, .inl rfl⟩

namespace WorksIn

theorem located_root (worksIn : WorksIn tree work root place) :
    (root ≠ "" → tree.locate true root = .ok place) ∧ (root = "" → place = tree.workDir) := by
  rcases worksIn.spelled with rfl | ⟨-, rfl, here⟩
  · refine ⟨fun _ => worksIn.located, ?_⟩
    rintro rfl
    cases worksIn.located
  · exact ⟨fun ne => absurd rfl ne, fun _ => here⟩

/-- A path leads to the same place from both, or fails in the same way. -/
theorem locate_join (worksIn : WorksIn tree work root place) (ne : l ≠ "") (last : Bool) :
    tree.locate last (Path.join work l) = tree.locate last (Path.join root l) := by
  rcases worksIn.spelled with rfl | ⟨rfl, rfl, rfl⟩
  · rfl
  · obtain ⟨entries, inside⟩ := worksIn.isDirectory
    exact FileTree.locate_join_dot inside ne last

/-- The same holds for every path that denotes something from the root, even for the empty one. -/
theorem locate_join_of_exists (worksIn : WorksIn tree work root place)
    (present : tree.exists? (Path.join root l) = true) (last : Bool) :
    tree.locate last (Path.join work l) = tree.locate last (Path.join root l) := by
  by_cases empty : l = ""
  · rcases worksIn.spelled with same | ⟨-, bare, -⟩
    · rw [same]
    · rw [empty, bare] at present
      cases present
  · exact worksIn.locate_join empty last

/-- No file is found from one of them but not from the other, not even by the empty path. -/
theorem file_join_iff (worksIn : WorksIn tree work root place) (l : String) (file : List String)
    (bytes : List UInt8) :
    (tree.locate true (Path.join work l) = .ok file ∧ tree.root.at? file = some (.file bytes)) ↔
      tree.locate true (Path.join root l) = .ok file ∧
        tree.root.at? file = some (.file bytes) := by
  by_cases empty : l = ""
  · subst empty
    rcases worksIn.spelled with rfl | ⟨rfl, rfl, rfl⟩
    · exact Iff.rfl
    · obtain ⟨entries, inside⟩ := worksIn.isDirectory
      have dotted : Path.join "." "" = "./" := rfl
      have bare : tree.locate true (Path.join "" "") = .error .notFound := rfl
      rw [dotted, (FileTree.locate_dot inside).2, bare]
      constructor
      · rintro ⟨found, isFile⟩
        cases found
        rw [inside] at isFile
        cases isFile
      · rintro ⟨found, -⟩
        cases found
  · rw [worksIn.locate_join empty true]

end WorksIn

/-! ### Where the program runs -/

/-- What a program answers elsewhere makes no difference. -/
theorem Git.vcs_congr {git : Git} {runner other : ProgramRunner}
    (same : ∀ program arguments,
      runner program git.workDir arguments = other program git.workDir arguments) :
    git.vcs runner = git.vcs other := by
  have run : ∀ call, git.run runner call = git.run other call := by
    intro call
    rw [Git.run, Git.run, same]
  simp only [Git.vcs, run]

/-- The program for version control runs in the directory that its answers are resolved against,
for every base that exists. It runs nowhere else; the files in scope are reported paths, joined to
the root of the base; and any path leads from where the program runs to what it leads to from that
root, links at its end followed or not. The empty path, which names no file, finds none from either.
-/
theorem vcsDirectory_is_root {s : Surroundings} {config : Configuration}
    (present : s.files.exists? config.baseDirectory = true) :
    let tree := s.files
    let work := vcsDirectory tree config.baseDirectory
    let root := Scope.rootOf tree config.baseDirectory
    (∀ registry (runner other : ProgramRunner),
      (∀ program arguments, runner program work arguments = other program work arguments) →
        validateWithGit s runner registry config = validateWithGit s other registry config) ∧
    (∃ place entries, tree.locate true work = .ok place ∧
      tree.root.at? place = some (.directory entries) ∧
      (root ≠ "" → tree.locate true root = .ok place) ∧ (root = "" → place = tree.workDir)) ∧
    (∀ l, l ≠ "" → ∀ last,
      tree.locate last (Path.join work l) = tree.locate last (Path.join root l)) ∧
    (∀ l file bytes,
      (tree.locate true (Path.join work l) = .ok file ∧
        tree.root.at? file = some (.file bytes)) ↔
      (tree.locate true (Path.join root l) = .ok file ∧
        tree.root.at? file = some (.file bytes))) ∧
    (∀ vcs options calls files,
      Scope.resolve tree vcs config.baseDirectory .changed options = (calls, .ok files) →
        ∃ reported, vcs.changed options.branchName = .ok reported ∧
          ∀ path ∈ files, ∃ l ∈ reported, path = Path.join root l ∧
            tree.locate true path = tree.locate true (Path.join work l)) := by
  intro tree work root
  obtain ⟨place, worksIn⟩ : ∃ place, WorksIn tree work root place := exists_worksIn present
  refine ⟨?runs, ?place, ?paths, ?files, ?scope⟩
  case runs =>
    intro registry runner other same
    have answers : (Git.mk Git.defaultProgram work).vcs runner =
        (Git.mk Git.defaultProgram work).vcs other := Git.vcs_congr same
    rw [validateWithGit, validateWithGit, answers]
  case place =>
    obtain ⟨entries, inside⟩ := worksIn.isDirectory
    exact ⟨place, entries, worksIn.located, inside, worksIn.located_root⟩
  case paths =>
    intro l ne last
    exact worksIn.locate_join ne last
  case files =>
    intro l file bytes
    exact worksIn.file_join_iff l file bytes
  case scope =>
    intro vcs options calls files ran
    obtain ⟨-, filter, reported, -, -, changed, -, rfl⟩ :=
      Scope.resolve_changed_eq_ok_iff.mp ran
    refine ⟨reported, changed, fun path member => ?_⟩
    obtain ⟨⟨l, inside, joined⟩, found, -⟩ := Scope.mem_changedFiles member
    have joined : path = Path.join root l := joined
    rw [joined] at found
    exact ⟨l, inside, joined, joined ▸ (worksIn.locate_join_of_exists found true).symm⟩

private def desk : Surroundings where
  files.root := .directory
    [("desk", .directory [("a", .file [65]), ("b", .file [66])])]
  files.workDir := ["desk"]
  readHeader _ := .error "no header"

private def bareName : Configuration where
  baseDirectory := "a"

/-- The program runs in `.`, where it finds the file beside the base that a run finds without it. -/
theorem vcsDirectory_is_root_of_bare_name :
    desk.files.exists? "a" = true ∧ vcsDirectory desk.files "a" = "." ∧
      Scope.rootOf desk.files "a" = "" ∧
      desk.files.locate true "." = .ok ["desk"] ∧
      desk.files.locate true "./b" = .ok ["desk", "b"] ∧
      desk.files.locate true "./b" = desk.files.locate true "b" := by
  have present : desk.files.exists? bareName.baseDirectory = true := rfl
  have work : vcsDirectory desk.files bareName.baseDirectory = "." := rfl
  have root : Scope.rootOf desk.files bareName.baseDirectory = "" := rfl
  have beside : desk.files.locate true "./b" = .ok ["desk", "b"] := rfl
  have dotted : Path.join "." "b" = "./b" := rfl
  have bare : Path.join "" "b" = "b" := rfl
  obtain ⟨-, ⟨place, _, located, -, -, start⟩, paths, -⟩ := vcsDirectory_is_root present
  rw [work] at located
  rw [start root] at located
  have same := paths "b" (by simp) true
  rw [work, root, dotted, bare] at same
  exact ⟨present, work, root, located, beside, same⟩

end DocLint
