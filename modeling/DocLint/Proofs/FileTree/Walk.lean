import DocLint.FileTree.Walk
import DocLint.Proofs.FileTree.Entries
import Mathlib.Data.List.Lex

/-!
# What a walk lists

A walk lists the paths along which names lead to files, and lists them in the order in which their
components come when they are compared one after the other.
-/
namespace DocLint

def PathComponent.rank : PathComponent → Nat
  | .root => 0
  | .here => 1
  | .up => 2
  | .name _ => 3

/-- The order of components: names are compared byte by byte and come after all others. -/
def PathComponent.Before : PathComponent → PathComponent → Prop
  | .name a, .name b => Path.bytes a < Path.bytes b
  | a, b => a.rank < b.rank

def Path.Precedes (a b : String) : Prop :=
  List.Lex PathComponent.Before (components a) (components b)

theorem PathComponent.not_before_self (c : PathComponent) : ¬ c.Before c := by
  cases c with
  | name s => exact List.lt_irrefl _
  | root => exact Nat.lt_irrefl _
  | here => exact Nat.lt_irrefl _
  | up => exact Nat.lt_irrefl _

/-- Of two paths that are the same, neither precedes the other. -/
theorem Path.Precedes.not_same {a b : String} (precedes : Precedes a b) : ¬ same a b := by
  intro same
  have eq : components a = components b := by simpa [Path.same] using same
  rw [Precedes, eq] at precedes
  generalize components b = cs at precedes
  clear eq same
  induction cs with
  | nil => cases precedes
  | cons c cs ih =>
    cases precedes with
    | cons rest => exact ih rest
    | rel before => exact PathComponent.not_before_self c before

instance : Std.Asymm PathComponent.Before where
  asymm a b before after := by
    cases a <;> cases b <;> try exact Nat.lt_asymm before after
    exact List.lt_asymm before after

instance : Std.Irrefl Path.Precedes where
  irrefl path precedes := precedes.not_same (by simp [Path.same])

instance : Std.Antisymm Path.Precedes where
  antisymm _ _ before after :=
    absurd after (Std.Asymm.asymm (r := List.Lex PathComponent.Before) _ _ before)

namespace FileTree

/-- Names lead from a node at a path to a file: through directories that are entered, to a file or
to a link whose path denotes one. -/
structure Found (isFile : String → Bool) (path : String) (node : Node) (names : List String) :
    Prop where
  entered : ∀ name ∈ names.dropLast, name ∉ skippedDirectories
  leaf : (∃ bytes, node.at? names = some (.file bytes)) ∨
    (∃ target, node.at? names = some (.link target)) ∧ isFile (Path.below path names) = true

theorem filesBelow_eq_flatMap (isFile : String → Bool) (directory : String)
    (entries : List (String × Node)) : filesBelow isFile directory entries =
      entries.flatMap fun e => filesAt isFile (Path.join directory e.1) e.1 e.2 := by
  induction entries with
  | nil => rw [filesBelow, List.flatMap_nil]
  | cons entry rest ih => rw [filesBelow, ih, List.flatMap_cons]

variable {isFile : String → Bool} {path name : String} {node : Node}

theorem not_found_directory_nil {entries : List (String × Node)} :
    ¬ Found isFile path (.directory entries) [] := by
  rintro ⟨-, ⟨bytes, same⟩ | ⟨⟨target, same⟩, -⟩⟩ <;> cases same

theorem entered_cons_iff {names : List String} :
    (∀ n ∈ (name :: names).dropLast, n ∉ skippedDirectories) ↔
      (names ≠ [] → name ∉ skippedDirectories) ∧ ∀ n ∈ names.dropLast, n ∉ skippedDirectories := by
  cases names with
  | nil => simp
  | cons x xs => simp

theorem found_cons_iff {entries : List (String × Node)} {names : List String} :
    Found isFile path (.directory entries) (name :: names) ↔
      ∃ child, Node.child? entries name = some child ∧
        (names ≠ [] → name ∉ skippedDirectories) ∧
          Found isFile (Path.join path name) child names := by
  constructor
  · rintro ⟨entered, leaf⟩
    rw [entered_cons_iff] at entered
    rcases leaf with ⟨bytes, last⟩ | ⟨⟨target, last⟩, denotes⟩
    · obtain ⟨child, isChild, rest⟩ := Node.at?_cons.mp last
      exact ⟨child, isChild, entered.1, entered.2, .inl ⟨bytes, rest⟩⟩
    · obtain ⟨child, isChild, rest⟩ := Node.at?_cons.mp last
      exact ⟨child, isChild, entered.1, entered.2, .inr ⟨⟨target, rest⟩, denotes⟩⟩
  · rintro ⟨child, isChild, enters, entered, leaf⟩
    refine ⟨entered_cons_iff.mpr ⟨enters, entered⟩, ?_⟩
    rcases leaf with ⟨bytes, last⟩ | ⟨⟨target, last⟩, denotes⟩
    · exact .inl ⟨bytes, Node.at?_cons.mpr ⟨child, isChild, last⟩⟩
    · exact .inr ⟨⟨target, Node.at?_cons.mpr ⟨child, isChild, last⟩⟩, denotes⟩

/-- What is listed for a node are the paths along which a file is found. -/
theorem mem_filesAt {listed : String} (wellFormed : node.WellFormed) :
    listed ∈ filesAt isFile path name node ↔ ∃ names, listed = Path.below path names ∧
      (names ≠ [] → name ∉ skippedDirectories) ∧ Found isFile path node names := by
  induction wellFormed generalizing path name with
  | file bytes =>
    rw [filesAt, List.mem_singleton]
    constructor
    · rintro rfl
      exact ⟨[], rfl, by simp, by simp, .inl ⟨bytes, rfl⟩⟩
    · rintro ⟨names, rfl, -, -, ⟨_, last⟩ | ⟨⟨_, last⟩, -⟩⟩
      · cases names with
        | nil => rfl
        | cons x xs => cases last
      · cases names <;> cases last
  | link target =>
    rw [filesAt]
    constructor
    · intro member
      split at member
      case isFalse => cases member
      case isTrue denotes =>
        rw [List.mem_singleton.mp member]
        exact ⟨[], rfl, by simp, by simp, .inr ⟨⟨target, rfl⟩, denotes⟩⟩
    · rintro ⟨names, rfl, -, -, ⟨_, last⟩ | ⟨⟨_, last⟩, denotes⟩⟩
      · cases names <;> cases last
      · cases names with
        | nil =>
          rw [Path.below, List.foldl_nil] at denotes
          rw [if_pos denotes]
          exact List.mem_singleton.mpr rfl
        | cons x xs => cases last
  | @directory entries named fits sorted nodes ih =>
    rw [filesAt]
    split
    case isTrue skipped =>
      refine iff_of_false List.not_mem_nil ?_
      rintro ⟨names, -, enters, found⟩
      cases names with
      | nil => exact not_found_directory_nil found
      | cons x xs => exact enters (List.cons_ne_nil x xs) (List.contains_iff_mem.mp skipped)
    case isFalse entered =>
      rw [filesBelow_eq_flatMap, List.mem_flatMap]
      constructor
      · rintro ⟨⟨child, node⟩, member, listed⟩
        obtain ⟨names, rfl, enters, found⟩ := (ih _ member).mp listed
        have isChild := (Node.child?_eq_some_iff sorted).mpr member
        refine ⟨child :: names, rfl, fun _ => ?_, found_cons_iff.mpr ⟨node, isChild, enters, found⟩⟩
        simpa using entered
      · rintro ⟨names, rfl, -, found⟩
        cases names with
        | nil => exact absurd found not_found_directory_nil
        | cons x xs =>
          obtain ⟨node, isChild, enters, found⟩ := found_cons_iff.mp found
          have member := Node.mem_of_child? isChild
          exact ⟨(x, node), member, (ih _ member).mpr ⟨xs, rfl, enters, found⟩⟩

theorem filesAt_unnamed (entries : List (String × Node)) :
    filesAt isFile path "" (.directory entries) = filesBelow isFile path entries := by
  rw [filesAt, if_neg (by decide)]

theorem mem_filesBelow {entries : List (String × Node)} {listed : String}
    (wellFormed : (Node.directory entries).WellFormed) :
    listed ∈ filesBelow isFile path entries ↔
      ∃ names, listed = Path.below path names ∧ Found isFile path (.directory entries) names := by
  rw [← filesAt_unnamed, mem_filesAt wellFormed]
  have enters : "" ∉ skippedDirectories := by decide
  exact exists_congr fun names => and_congr_right fun _ => and_iff_right fun _ => enters

theorem Found.named {names : List String} (found : Found isFile path node names)
    (wellFormed : node.WellFormed) :
    ∀ n ∈ names, Path.IsName n ∧ (Path.bytes n).length ≤ maxName := by
  rcases found.leaf with ⟨bytes, last⟩ | ⟨⟨target, last⟩, -⟩
  · exact (wellFormed.at? last).2
  · exact (wellFormed.at? last).2

theorem extends_of_mem_filesAt {listed : String} (ne : path ≠ "") (wellFormed : node.WellFormed)
    (member : listed ∈ filesAt isFile path name node) :
    ∃ names, Path.Extends path names listed := by
  obtain ⟨names, rfl, -, found⟩ := (mem_filesAt wellFormed).mp member
  exact ⟨names, .below ne fun n inside => (found.named wellFormed n inside).1⟩

/-- Paths that go on with different names are in the order of these names. -/
theorem precedes_of_lt {a b x y : String} {names more : List String} (ne : path ≠ "")
    (isNameA : Path.IsName a) (isNameB : Path.IsName b) (lt : Path.bytes a < Path.bytes b)
    (left : Path.Extends (Path.join path a) names x)
    (right : Path.Extends (Path.join path b) more y) : Path.Precedes x y := by
  rw [Path.Precedes, ((Path.Extends.join ne isNameA).trans left).components_eq,
    ((Path.Extends.join ne isNameB).trans right).components_eq]
  have before : PathComponent.Before (.name a) (.name b) := lt
  exact List.Lex.append_left _ (.rel before) _

theorem pairwise_filesAt (ne : path ≠ "") (wellFormed : node.WellFormed) :
    (filesAt isFile path name node).Pairwise Path.Precedes := by
  induction wellFormed generalizing path name with
  | file bytes => simp [filesAt]
  | link target =>
    rw [filesAt]
    split <;> simp
  | @directory entries named fits sorted nodes ih =>
    rw [filesAt]
    split
    case isTrue => exact List.Pairwise.nil
    case isFalse =>
      have joined : ∀ e ∈ entries, Path.join path e.1 ≠ "" := fun e member =>
        Path.join_ne_empty ne (named e member).relative
      rw [filesBelow_eq_flatMap, List.pairwise_flatMap]
      refine ⟨fun e member => ih e member (joined e member), ?_⟩
      refine sorted.imp_of_mem fun {e f} memberE memberF lt x inX y inY => ?_
      obtain ⟨names, left⟩ := extends_of_mem_filesAt (joined e memberE) (nodes e memberE) inX
      obtain ⟨more, right⟩ := extends_of_mem_filesAt (joined f memberF) (nodes f memberF) inY
      exact precedes_of_lt ne (named e memberE) (named f memberF) lt left right

theorem pairwise_filesBelow {entries : List (String × Node)} (ne : path ≠ "")
    (wellFormed : (Node.directory entries).WellFormed) :
    (filesBelow isFile path entries).Pairwise Path.Precedes := by
  rw [← filesAt_unnamed]
  exact pairwise_filesAt ne wellFormed

end FileTree
end DocLint
