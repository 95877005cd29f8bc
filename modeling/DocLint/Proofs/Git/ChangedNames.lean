import DocLint.Git
import DocLint.Proofs.Scope.Changed
import DocLint.Proofs.Text.Decoding
import DocLint.Proofs.Text.Splitting
import DocLint.Proofs.Text.Trimming

/-!
# The names of changed files

The program prints every changed file on a line of its own. What is read back are the names without
the blanks at their ends; so exactly the names that start and end visibly come back as they were
printed, and the files with such names are those that a run cannot miss.
-/
namespace DocLint.Git

open Text

/-- Names that a line can hold: none is empty, and there is no line break in them. -/
def AreNames (names : List String) : Prop :=
  ∀ name ∈ names, name ≠ "" ∧ '\n' ∉ name.toList ∧ '\r' ∉ name.toList

def listing (names : List String) : String :=
  String.join (names.map (· ++ "\n"))

variable {names : List String} {git : Git} {runner : ProgramRunner} {branch : String}
  {stderr : List UInt8} {line : List Char}

/-! ### Lines -/

theorem chomp_line (unbroken : '\r' ∉ line) : chomp (line ++ ['\n']) = line := by
  rw [chomp, List.reverse_concat]
  split
  case h_1 rest eq =>
    obtain ⟨-, same⟩ := List.cons.inj eq
    exact absurd (List.mem_reverse.mp (same ▸ List.mem_cons_self)) unbroken
  case h_2 rest _ eq =>
    obtain ⟨-, rfl⟩ := List.cons.inj eq
    exact List.reverse_reverse line
  case h_3 _ other => exact absurd rfl (other line.reverse)

/-- The lines of a listing are the names. -/
theorem lines_listing (areNames : AreNames names) :
    lines (listing names).toList = names.map String.toList := by
  rw [listing, String.toList_join, lines]
  induction names with
  | nil => rfl
  | cons name names ih =>
    obtain ⟨⟨-, unbroken, unreturned⟩, rest⟩ := List.forall_mem_cons.mp areNames
    have uncut : ∀ x ∈ name.toList, (x == '\n') = false := fun x inside =>
      beq_eq_false_iff_ne.mpr fun same => unbroken (same ▸ inside)
    have closed : ∀ x, (name.toList ++ ['\n']).getLast? = some x → (x == '\n') = true := by
      simp
    have lineFeed : "\n".toList = ['\n'] := rfl
    rw [List.map_cons, List.flatMap_cons, String.toList_append, lineFeed, splitAfter_append closed,
      splitAfter_line rfl uncut, List.map_append, ih rest, List.map_singleton,
      chomp_line unreturned, List.map_cons, List.singleton_append]

/-! ### Names -/

theorem trimmed_eq_self_iff {name : String} : trimmed name = name ↔ EndsVisibly name.toList := by
  rw [← trim_eq_self_iff, trimmed, ← String.toList_inj, String.toList_ofList]

/-- What is read of a listing are the trimmed names, without those of which nothing is left. -/
theorem readNames_listing (areNames : AreNames names) :
    readNames (listing names) = (names.map trimmed).filter (· != "") := by
  rw [readNames, lines_listing areNames]
  clear areNames
  induction names with
  | nil => rfl
  | cons name names ih =>
    have nothing : (trim name.toList).isEmpty = !(trimmed name != "") := by
      rw [trimmed]
      cases trim name.toList <;> simp
    rw [List.map_cons, List.map_cons, List.filterMap_cons, ih, nothing, List.map_cons,
      List.filter_cons]
    cases trimmed name != "" <;> simp [trimmed]

/-- A listing is read back faithfully exactly if every name starts and ends visibly. -/
theorem filter_trimmed_eq_self_iff (areNames : AreNames names) :
    (names.map trimmed).filter (· != "") = names ↔ ∀ name ∈ names, EndsVisibly name.toList := by
  constructor
  · intro same name member
    have long : ((names.map trimmed).filter (· != "")).length = (names.map trimmed).length := by
      rw [same, List.length_map]
    have kept : (names.map trimmed).filter (· != "") = names.map trimmed :=
      List.filter_sublist.eq_of_length long
    have unchanged : names.map trimmed = names.map id := by rw [← kept, same, List.map_id]
    exact trimmed_eq_self_iff.mp (List.map_inj_left.mp unchanged name member)
  · intro visible
    have unchanged : names.map trimmed = names := by
      conv_rhs => rw [← List.map_id names]
      exact List.map_inj_left.mpr fun name member => trimmed_eq_self_iff.mpr (visible name member)
    rw [unchanged, List.filter_eq_self]
    exact fun name member => bne_iff_ne.mpr (areNames name member).1

def Lists (git : Git) (runner : ProgramRunner) (branch : String) (names : List String) : Prop :=
  ∃ stderr, runner git.program git.workDir (arguments (.diff branch)) =
    .ok ⟨.exited 0, encodeUtf8 (listing names), stderr⟩

theorem changed_eq_readNames (lists : git.Lists runner branch names) :
    (git.vcs runner).changed branch = .ok (readNames (listing names)) := by
  obtain ⟨stderr, answered⟩ := lists
  have output : git.run runner (.diff branch) = .ok (listing names) := by
    rw [run]
    simp only [answered, decodeUtf8_encodeUtf8]
    rfl
  rw [vcs]
  simp only [output]
  rfl

/-- A reported path that exists and passes the filter is in the scope, if it was read as it is. -/
theorem exists_kept_of_reported {tree : FileTree} {base path : String} {filter : PathFilter}
    {reported : List String} (listed : path ∈ reported.map (Path.join (Scope.rootOf tree base)))
    (present : tree.exists? path = true) (admitted : filter.admits path = true) :
    ∃ kept ∈ Scope.changedFiles tree base filter reported, Path.same path kept = true := by
  rw [← List.any_eq_true, Scope.changedFiles, Scope.any_same_distinctPaths, List.any_eq_true]
  refine ⟨path, List.mem_filter.mpr ⟨listed, ?_⟩, Path.same_equivalence.refl path⟩
  rw [present, admitted, Bool.and_self]

/-- The names that are read back are the trimmed ones. They are those that were printed exactly if
every name starts and ends visibly, and the files with such names are never missing from the scope
of a run. -/
theorem changed_reads_visible_names (areNames : AreNames names)
    (lists : git.Lists runner branch names) :
    (git.vcs runner).changed branch = .ok ((names.map trimmed).filter (· != "")) ∧
    ((git.vcs runner).changed branch = .ok names ↔ ∀ name ∈ names, EndsVisibly name.toList) ∧
    ∀ (tree : FileTree) (base : String) (options : ModeOptions) (filter : PathFilter),
      tree.exists? base = true → options.fileFilter = .ok filter → options.branchName = branch →
      (git.vcs runner).fetch options.remoteName branch = .ok () →
      ∃ files, Scope.resolve tree (git.vcs runner) base .changed options =
          ([.fetch options.remoteName branch, .diff branch], .ok files) ∧
        ∀ name ∈ names, EndsVisibly name.toList →
          tree.exists? (Path.join (Scope.rootOf tree base) name) = true →
          filter.admits (Path.join (Scope.rootOf tree base) name) = true →
          ∃ kept ∈ files, Path.same (Path.join (Scope.rootOf tree base) name) kept = true := by
  have changed : (git.vcs runner).changed branch = .ok ((names.map trimmed).filter (· != "")) := by
    rw [changed_eq_readNames lists, readNames_listing areNames]
  refine ⟨changed, ?_, fun tree base options filter present read same fetched => ?_⟩
  · rw [changed, Except.ok.injEq, filter_trimmed_eq_self_iff areNames]
  · subst same
    refine ⟨_, Scope.resolve_changed_eq_ok_iff.mpr
      ⟨present, filter, _, read, fetched, changed, rfl, rfl⟩, fun name member visible => ?_⟩
    have unchanged := trimmed_eq_self_iff.mpr visible
    have reported : name ∈ (names.map trimmed).filter (· != "") := by
      refine List.mem_filter.mpr ⟨List.mem_map.mpr ⟨name, member, unchanged⟩, ?_⟩
      exact bne_iff_ne.mpr (areNames name member).1
    exact exists_kept_of_reported (List.mem_map_of_mem reported)

private def indentedCorpus : FileTree where
  root := .directory [("d", .directory [(" a", .file []), ("b", .file [])])]
  workDir := []

private def indentedNames : List String := [" a", "b"]

private def everyFile : ModeOptions where
  includePattern := some ""

private def listingIndented : ProgramRunner := fun _ _ arguments =>
  .ok ⟨.exited 0, if arguments.head? == some "diff" then encodeUtf8 (listing indentedNames) else [],
    []⟩

private def repository : Git := ⟨defaultProgram, "."⟩

private theorem lists_indented : repository.Lists listingIndented "main" indentedNames :=
  ⟨[], rfl⟩

private theorem areNames_indented : AreNames indentedNames := by
  rw [AreNames]
  decide

private theorem fileFilter_everyFile : everyFile.fileFilter = .ok ⟨some .empty, none⟩ := rfl

private theorem changed_indented :
    (repository.vcs listingIndented).changed "main" = .ok ["a", "b"] := by
  rw [changed_eq_readNames lists_indented, readNames_listing areNames_indented]
  rfl

/-- The file whose name has no blanks at its ends is in the scope. -/
theorem changed_reads_names_of_corpus :
    (repository.vcs listingIndented).changed "main" = .ok ["a", "b"] ∧
      ∃ files, Scope.resolve indentedCorpus (repository.vcs listingIndented) "d" .changed
          everyFile = ([.fetch "origin" "main", .diff "main"], .ok files) ∧
        ∃ kept ∈ files, Path.same "d/b" kept = true := by
  have present : indentedCorpus.exists? "d" = true := rfl
  have root : Scope.rootOf indentedCorpus "d" = "d" := rfl
  have joined : Path.join "d" "b" = "d/b" := rfl
  have inside : indentedCorpus.exists? "d/b" = true := rfl
  have admitted : (⟨some .empty, none⟩ : PathFilter).admits "d/b" = true := rfl
  obtain ⟨changed, -, scope⟩ := changed_reads_visible_names areNames_indented lists_indented
  obtain ⟨files, resolved, found⟩ :=
    scope indentedCorpus "d" everyFile _ present fileFilter_everyFile rfl rfl
  have visible : EndsVisibly ['b'] := ⟨by simp; decide, by simp; decide⟩
  have kept := found "b" (by decide) visible
  rw [root, joined] at kept
  exact ⟨changed, files, resolved, kept inside admitted⟩

/-- The one whose name starts with a blank is not, although it exists and passes the filter. -/
theorem changed_loses_indented_name :
    AreNames indentedNames ∧ repository.Lists listingIndented "main" indentedNames ∧
      (repository.vcs listingIndented).changed "main" ≠ .ok indentedNames ∧
      indentedCorpus.exists? "d/ a" = true ∧
      ∃ filter, everyFile.fileFilter = .ok filter ∧ filter.admits "d/ a" = true ∧
        Scope.resolve indentedCorpus (repository.vcs listingIndented) "d" .changed everyFile =
          ([.fetch "origin" "main", .diff "main"], .ok ["d/b"]) := by
  refine ⟨areNames_indented, lists_indented, ?_, rfl, _, fileFilter_everyFile, rfl, ?_⟩
  · rw [changed_indented]
    decide
  · have present : indentedCorpus.exists? "d" = true := rfl
    rw [Scope.resolve_changed_eq_ok_iff]
    refine ⟨present, _, _, fileFilter_everyFile, rfl, changed_indented, rfl, ?_⟩
    rfl

end DocLint.Git
