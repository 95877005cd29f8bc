import DocLint.Proofs.FileTree.Parent
import DocLint.Proofs.Validation.Stages
import Mathlib.Data.List.Induction

/-!
# The reported files

With version control the scope of a run are the reported paths that exist and pass the filter. Of
several that are the same, the first one that passes is kept; one that does not pass keeps no other
one out.
-/
namespace DocLint.Scope

variable {passes : String → Bool} {paths kept : List String} {path : String}

theorem distinctPaths_concat (paths : List String) (path : String) :
    distinctPaths (paths ++ [path]) =
      if (distinctPaths paths).any (Path.same path) then distinctPaths paths
      else distinctPaths paths ++ [path] := by
  rw [distinctPaths, List.foldl_concat, distinctPaths, List.any_reverse]
  split <;> simp

/-- What is kept has the same paths as the list, up to their spelling. -/
theorem any_same_distinctPaths (paths : List String) (path : String) :
    (distinctPaths paths).any (Path.same path) = paths.any (Path.same path) := by
  induction paths using List.reverseRecOn with
  | nil => rfl
  | append_singleton paths last ih =>
    rw [distinctPaths_concat, List.any_append, ← ih]
    split
    case isFalse => rw [List.any_append]
    case isTrue seen =>
      obtain ⟨other, member, sameOther⟩ := List.any_eq_true.mp seen
      cases sameLast : Path.same path last with
      | false => simp [sameLast]
      | true =>
        have found : (distinctPaths paths).any (Path.same path) = true :=
          List.any_eq_true.mpr ⟨other, member, Path.same_equivalence.trans sameLast sameOther⟩
        rw [found, Bool.true_or]

/-- The path at a position passes, and none that passes before it is the same. -/
def PassesFirst (passes : String → Bool) (paths : List String) (i : Nat) : Prop :=
  ∃ path, paths[i]? = some path ∧ passes path = true ∧
    ∀ j other, j < i → paths[j]? = some other → passes other = true →
      ¬ Path.same path other = true

theorem lt_length_of_passesFirst {i : Nat} (first : PassesFirst passes paths i) :
    i < paths.length := by
  obtain ⟨path, found, -, -⟩ := first
  exact (List.getElem?_eq_some_iff.mp found).1

/-- A path that is put at the end changes nothing for those before it. -/
theorem passesFirst_concat_of_lt {i : Nat} (lt : i < paths.length) :
    PassesFirst passes (paths ++ [path]) i ↔ PassesFirst passes paths i := by
  have before : ∀ j, j ≤ i → (paths ++ [path])[j]? = paths[j]? := fun j le =>
    List.getElem?_append_left (by omega)
  constructor
  · rintro ⟨found, at_i, passing, alone⟩
    refine ⟨found, before i (Nat.le_refl i) ▸ at_i, passing, fun j other less at_j => ?_⟩
    exact alone j other less (before j (by omega) ▸ at_j)
  · rintro ⟨found, at_i, passing, alone⟩
    refine ⟨found, (before i (Nat.le_refl i)).trans at_i, passing, fun j other less at_j => ?_⟩
    exact alone j other less ((before j (by omega)).symm.trans at_j)

/-- A path at the end passes first if it passes and is the same as no other one that passes. -/
theorem passesFirst_concat_length : PassesFirst passes (paths ++ [path]) paths.length ↔
    passes path = true ∧ (paths.filter passes).any (Path.same path) = false := by
  have last : (paths ++ [path])[paths.length]? = some path := List.getElem?_concat_length
  have before : ∀ j, j < paths.length → (paths ++ [path])[j]? = paths[j]? := fun j less =>
    List.getElem?_append_left less
  rw [List.any_eq_false]
  constructor
  · rintro ⟨found, at_end, passing, alone⟩
    rw [last, Option.some.injEq] at at_end
    subst at_end
    refine ⟨passing, fun other member => ?_⟩
    obtain ⟨inside, passingOther⟩ := List.mem_filter.mp member
    obtain ⟨j, less, at_j⟩ := List.mem_iff_getElem.mp inside
    have at_j : paths[j]? = some other := List.getElem?_eq_some_iff.mpr ⟨less, at_j⟩
    exact alone j other less ((before j less).trans at_j) passingOther
  · rintro ⟨passing, alone⟩
    refine ⟨path, last, passing, fun j other less at_j passingOther => ?_⟩
    rw [before j less] at at_j
    exact alone other (List.mem_filter.mpr ⟨List.mem_of_getElem? at_j, passingOther⟩)

/-- The kept paths are those at the positions, in their order, and the positions are those where a
path passes first. -/
structure KeptAt (passes : String → Bool) (paths kept : List String) (positions : List Nat) :
    Prop where
  ascending : positions.Pairwise (· < ·)
  exact : ∀ i, i ∈ positions ↔ PassesFirst passes paths i
  listed : kept.map some = positions.map (paths[·]?)

namespace KeptAt

variable {positions : List Nat}

theorem lt_length (keptAt : KeptAt passes paths kept positions) {i : Nat} (member : i ∈ positions) :
    i < paths.length :=
  lt_length_of_passesFirst ((keptAt.exact i).mp member)

theorem listed_concat (keptAt : KeptAt passes paths kept positions) (path : String) :
    kept.map some = positions.map ((paths ++ [path])[·]?) := by
  rw [keptAt.listed]
  refine List.map_congr_left fun i member => ?_
  exact (List.getElem?_append_left (keptAt.lt_length member)).symm

theorem mem (keptAt : KeptAt passes paths kept positions) (member : path ∈ kept) :
    path ∈ paths ∧ passes path = true := by
  have listed : some path ∈ positions.map (paths[·]?) :=
    keptAt.listed ▸ List.mem_map_of_mem member
  obtain ⟨i, inside, at_i⟩ := List.mem_map.mp listed
  obtain ⟨found, at_i', passing, -⟩ := (keptAt.exact i).mp inside
  cases at_i.symm.trans at_i'
  exact ⟨List.mem_of_getElem? at_i, passing⟩

theorem keep (keptAt : KeptAt passes paths kept positions)
    (first : PassesFirst passes (paths ++ [path]) paths.length) :
    KeptAt passes (paths ++ [path]) (kept ++ [path]) (positions ++ [paths.length]) where
  ascending := by
    rw [List.pairwise_append]
    refine ⟨keptAt.ascending, List.pairwise_singleton .., fun i member j last => ?_⟩
    rw [List.mem_singleton.mp last]
    exact keptAt.lt_length member
  exact i := by
    rw [List.mem_append, List.mem_singleton]
    constructor
    · rintro (member | rfl)
      · exact (passesFirst_concat_of_lt (keptAt.lt_length member)).mpr ((keptAt.exact i).mp member)
      · exact first
    · intro found
      have less := lt_length_of_passesFirst found
      rw [List.length_append, List.length_singleton] at less
      by_cases last : i = paths.length
      · exact .inr last
      · exact .inl ((keptAt.exact i).mpr ((passesFirst_concat_of_lt (by omega)).mp found))
  listed := by
    rw [List.map_append, keptAt.listed_concat path, List.map_append]
    simp

theorem skip (keptAt : KeptAt passes paths kept positions)
    (later : ¬ PassesFirst passes (paths ++ [path]) paths.length) :
    KeptAt passes (paths ++ [path]) kept positions where
  ascending := keptAt.ascending
  exact i := by
    rw [keptAt.exact]
    constructor
    · intro found
      exact (passesFirst_concat_of_lt (lt_length_of_passesFirst found)).mpr found
    · intro found
      have less := lt_length_of_passesFirst found
      rw [List.length_append, List.length_singleton] at less
      by_cases last : i = paths.length
      · exact absurd (last ▸ found) later
      · exact (passesFirst_concat_of_lt (by omega)).mp found
  listed := keptAt.listed_concat path

end KeptAt

theorem exists_keptAt (passes : String → Bool) (paths : List String) :
    ∃ positions, KeptAt passes paths (distinctPaths (paths.filter passes)) positions := by
  induction paths using List.reverseRecOn with
  | nil =>
    refine ⟨[], List.Pairwise.nil, fun i => iff_of_false List.not_mem_nil ?_, rfl⟩
    exact fun first => absurd (lt_length_of_passesFirst first) (Nat.not_lt_zero i)
  | append_singleton paths path ih =>
    obtain ⟨positions, keptAt⟩ := ih
    by_cases first : PassesFirst passes (paths ++ [path]) paths.length
    · obtain ⟨passing, fresh⟩ := passesFirst_concat_length.mp first
      refine ⟨positions ++ [paths.length], ?_⟩
      rw [List.filter_append, List.filter_cons_of_pos passing, List.filter_nil,
        distinctPaths_concat, any_same_distinctPaths, fresh]
      exact keptAt.keep first
    · refine ⟨positions, ?_⟩
      have unchanged : distinctPaths ((paths ++ [path]).filter passes) =
          distinctPaths (paths.filter passes) := by
        rw [passesFirst_concat_length, not_and, Bool.not_eq_false] at first
        rw [List.filter_append]
        cases passing : passes path with
        | false =>
          rw [List.filter_cons_of_neg (by simp [passing]), List.filter_nil, List.append_nil]
        | true =>
          rw [List.filter_cons_of_pos passing, List.filter_nil, distinctPaths_concat,
            any_same_distinctPaths, if_pos (first passing)]
      rw [unchanged]
      exact keptAt.skip first

theorem pairwise_distinctPaths (paths : List String) :
    (distinctPaths paths).Pairwise fun a b => ¬ Path.same a b = true := by
  induction paths using List.reverseRecOn with
  | nil => exact List.Pairwise.nil
  | append_singleton paths path ih =>
    rw [distinctPaths_concat]
    split
    case isTrue => exact ih
    case isFalse fresh =>
      rw [List.pairwise_append]
      refine ⟨ih, List.pairwise_singleton .., fun a member b last same => fresh ?_⟩
      rw [List.mem_singleton.mp last] at same
      exact List.any_eq_true.mpr ⟨a, member, Path.same_equivalence.symm same⟩

theorem mem_changedFiles {tree : FileTree} {base : String} {filter : PathFilter}
    {reported : List String} (member : path ∈ changedFiles tree base filter reported) :
    (∃ l ∈ reported, path = Path.join (rootOf tree base) l) ∧ tree.exists? path = true ∧
      filter.admits path = true := by
  obtain ⟨positions, keptAt⟩ := exists_keptAt (fun path => tree.exists? path && filter.admits path)
    (reported.map (Path.join (rootOf tree base)))
  obtain ⟨joined, passing⟩ := keptAt.mem member
  obtain ⟨l, inside, rfl⟩ := List.mem_map.mp joined
  rw [Bool.and_eq_true] at passing
  exact ⟨⟨l, inside, rfl⟩, passing⟩

/-- What the paths of version control are relative to: a directory itself, and what contains a
file. -/
theorem rootOf_spec (tree : FileTree) (base : String) :
    (tree.isFile base = false → rootOf tree base = base) ∧
    (tree.isFile base = true → Path.parent? base = some (rootOf tree base) ∧
      Path.components (rootOf tree base) = (Path.components base).dropLast) := by
  rw [rootOf]
  constructor
  · intro noFile
    rw [noFile, if_neg Bool.false_ne_true]
  · intro file
    obtain ⟨parent, isParent⟩ := FileTree.exists_parent_of_isFile file
    rw [if_pos file, isParent]
    exact ⟨rfl, Path.components_of_parent? isParent⟩

/-- The scope are the reported paths, below the base or below what contains it, that exist and pass
the filter, each at the position where it passes first. So no two of them are the same, and every
reported path that passes is the same as one of them. -/
theorem resolve_changed_keeps_first {tree : FileTree} {vcs : Vcs} {base : String}
    {options : ModeOptions} {filter : PathFilter} {reported : List String}
    (present : tree.exists? base = true) (read : options.fileFilter = .ok filter)
    (fetched : vcs.fetch options.remoteName options.branchName = .ok ())
    (changed : vcs.changed options.branchName = .ok reported) :
    ∃ root files positions,
      (tree.isFile base = false → root = base) ∧
      (tree.isFile base = true → Path.parent? base = some root ∧
        Path.components root = (Path.components base).dropLast) ∧
      resolve tree vcs base .changed options =
        ([.fetch options.remoteName options.branchName, .diff options.branchName], .ok files) ∧
      KeptAt (fun path => tree.exists? path && filter.admits path)
        (reported.map (Path.join root)) files positions ∧
      files.Pairwise (fun a b => ¬ Path.same a b = true) ∧
      (∀ path ∈ reported.map (Path.join root), tree.exists? path = true →
        filter.admits path = true → ∃ kept ∈ files, Path.same path kept = true) ∧
      (∀ l, Path.isAbsolute l = true → Path.join root l = l) ∧
      (Equivalence fun a b => Path.same a b = true) ∧
      ∀ a b piece, Path.IsStill piece →
        Path.same (a ++ "/" ++ piece ++ "/" ++ b) (a ++ "/" ++ b) = true ∧
        (a ≠ "" → Path.same (a ++ "/" ++ piece) a = true) := by
  obtain ⟨positions, keptAt⟩ := exists_keptAt (fun path => tree.exists? path && filter.admits path)
    (reported.map (Path.join (rootOf tree base)))
  refine ⟨rootOf tree base, changedFiles tree base filter reported, positions,
    (rootOf_spec tree base).1, (rootOf_spec tree base).2, ?_, keptAt, pairwise_distinctPaths _,
    fun path member exists? admitted => ?_, fun l absolute => if_pos absolute,
    Path.same_equivalence, fun a b piece still =>
      ⟨Path.same_of_still_inside a b still, fun ne => Path.same_of_still_last ne still⟩⟩
  · exact resolve_changed_eq_ok_iff.mpr
      ⟨present, filter, reported, read, fetched, changed, rfl, rfl⟩
  · rw [← List.any_eq_true, changedFiles, any_same_distinctPaths, List.any_eq_true]
    refine ⟨path, List.mem_filter.mpr ⟨member, ?_⟩, Path.same_equivalence.refl path⟩
    rw [exists?, admitted, Bool.and_self]

private def nestedCorpus : FileTree where
  root := .directory [("a", .file []), ("d", .directory [("b", .file [])])]
  workDir := []

private def respelled : List String := ["d//b", "x", "d/b", "a", "d/b"]

private def spelledOnce : ModeOptions where
  includePattern := some ""
  excludePattern := some "//"

private def respelling : Vcs where
  fetch _ _ := .ok ()
  changed _ := .ok respelled

/-- The spelling of a file that the filter refuses does not keep the other one out. -/
theorem resolve_changed_of_respelled :
    ∃ filter, spelledOnce.fileFilter = .ok filter ∧
      resolve nestedCorpus respelling "a" .changed spelledOnce =
        ([.fetch "origin" "main", .diff "main"], .ok ["d/b", "a"]) ∧
      ∃ positions, KeptAt (fun path => nestedCorpus.exists? path && filter.admits path)
        respelled ["d/b", "a"] positions := by
  have present : nestedCorpus.exists? "a" = true := rfl
  have file : nestedCorpus.isFile "a" = true := rfl
  have joined : respelled.map (Path.join "") = respelled := rfl
  have listed : resolve nestedCorpus respelling "a" .changed spelledOnce =
      ([.fetch "origin" "main", .diff "main"], .ok ["d/b", "a"]) := rfl
  have fetched : respelling.fetch spelledOnce.remoteName spelledOnce.branchName = .ok () := rfl
  have changed : respelling.changed spelledOnce.branchName = .ok respelled := rfl
  have isParent : Path.parent? "a" = some "" := rfl
  obtain ⟨filter, read⟩ : ∃ filter, spelledOnce.fileFilter = .ok filter := by
    cases read : spelledOnce.fileFilter with
    | ok filter => exact ⟨filter, rfl⟩
    | error e =>
      rw [resolve_of_refused present read] at listed
      cases listed
  obtain ⟨root, files, positions, -, parent, ran, keptAt, -⟩ :=
    resolve_changed_keeps_first present read fetched changed
  obtain rfl : "" = root := Option.some.inj (isParent.symm.trans (parent file).1)
  rw [listed] at ran
  cases ran
  exact ⟨filter, read, listed, positions, joined ▸ keptAt⟩

end DocLint.Scope
