import DocLint.Proofs.FileTree.PathParts

/-!
# Entries of directories

What a file system guarantees of a tree: the entries of a directory have proper names and are sorted
by them. Names then single out one entry each, and a list of names leads down through directories
only.
-/
namespace DocLint

namespace Node

/-- A node as a file system holds it: the entries of a directory have names, no longer than allowed,
and are sorted by the bytes of them without repetition. -/
inductive WellFormed : Node → Prop
  | file (bytes : List UInt8) : WellFormed (.file bytes)
  | link (target : String) : WellFormed (.link target)
  | directory {entries : List (String × Node)} (named : ∀ e ∈ entries, Path.IsName e.1)
      (fits : ∀ e ∈ entries, (Path.bytes e.1).length ≤ FileTree.maxName)
      (sorted : entries.Pairwise fun a b => Path.bytes a.1 < Path.bytes b.1)
      (nodes : ∀ e ∈ entries, WellFormed e.2) : WellFormed (.directory entries)

theorem mem_of_child? {entries : List (String × Node)} {name : String} {node : Node}
    (found : child? entries name = some node) : (name, node) ∈ entries := by
  obtain ⟨entry, first, rfl⟩ := Option.map_eq_some_iff.mp found
  have same : entry.1 = name := by simpa using List.find?_some first
  rw [← same]
  exact List.mem_of_find?_eq_some first

theorem child?_eq_some_iff {entries : List (String × Node)}
    (sorted : entries.Pairwise fun a b => Path.bytes a.1 < Path.bytes b.1) {name : String}
    {node : Node} :
    child? entries name = some node ↔ (name, node) ∈ entries := by
  refine ⟨mem_of_child?, fun member => ?_⟩
  induction entries with
  | nil => cases member
  | cons entry rest ih =>
    rw [List.pairwise_cons] at sorted
    rcases List.mem_cons.mp member with rfl | later
    · simp [child?]
    · have before : Path.bytes entry.1 < Path.bytes name := sorted.1 _ later
      have differs : entry.1 ≠ name := by
        rintro rfl
        exact List.lt_irrefl _ before
      simpa [child?, differs] using ih sorted.2 later

theorem at?_append {node : Node} {xs ys : List String} :
    node.at? (xs ++ ys) = (node.at? xs).bind (·.at? ys) := by
  induction xs generalizing node with
  | nil => rfl
  | cons x xs ih =>
    cases node with
    | file bytes => rfl
    | link target => rfl
    | directory entries =>
      rw [List.cons_append, at?, at?]
      cases child? entries x with
      | none => rfl
      | some child => exact ih

/-- Only a directory has something below it. -/
theorem directory_of_at? {node last : Node} {front more : List String} (ne : more ≠ [])
    (found : node.at? (front ++ more) = some last) :
    ∃ entries, node.at? front = some (.directory entries) := by
  rw [at?_append, Option.bind_eq_some_iff] at found
  obtain ⟨middle, reached, rest⟩ := found
  cases more with
  | nil => exact absurd rfl ne
  | cons x xs =>
    cases middle with
    | file bytes => cases rest
    | link target => cases rest
    | directory entries => exact ⟨entries, reached⟩

theorem at?_cons {entries : List (String × Node)} {name : String} {names : List String}
    {last : Node} : (directory entries).at? (name :: names) = some last ↔
      ∃ child, child? entries name = some child ∧ child.at? names = some last := by
  rw [at?]
  cases child? entries name <;> simp

theorem WellFormed.at? {node last : Node} {names : List String} (wellFormed : node.WellFormed)
    (found : node.at? names = some last) :
    last.WellFormed ∧
      ∀ name ∈ names, Path.IsName name ∧ (Path.bytes name).length ≤ FileTree.maxName := by
  induction names generalizing node with
  | nil =>
    cases found
    exact ⟨wellFormed, by simp⟩
  | cons name names ih =>
    cases wellFormed with
    | file bytes => cases found
    | link target => cases found
    | directory named fits sorted nodes =>
      obtain ⟨child, isChild, rest⟩ := at?_cons.mp found
      have member := mem_of_child? isChild
      obtain ⟨sound, others⟩ := ih (nodes _ member) rest
      exact ⟨sound, List.forall_mem_cons.mpr ⟨⟨named _ member, fits _ member⟩, others⟩⟩

end Node

end DocLint
