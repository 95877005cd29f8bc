import DocLint.FileTree.Basic
import DocLint.Proofs.Text.Splitting
import Mathlib.Data.List.Basic

/-!
# Joining paths

What joining does to the pieces, the components and the steps of a path: those of the second path
come after those of the first. Paths that are reached from a base by names are made of the base and
of these names.
-/
namespace DocLint

namespace Path

theorem same_iff_components_eq {a b : String} : same a b = true ↔ components a = components b :=
  beq_iff_eq

/-- Being the same is an equivalence, whatever the spelling. -/
theorem same_equivalence : Equivalence fun a b => same a b = true where
  refl _ := same_iff_components_eq.mpr rfl
  symm one := same_iff_components_eq.mpr (same_iff_components_eq.mp one).symm
  trans one other := same_iff_components_eq.mpr
    ((same_iff_components_eq.mp one).trans (same_iff_components_eq.mp other))

theorem pieces_ne_nil (path : String) : pieces path ≠ [] := by
  rw [pieces, ne_eq, List.map_eq_nil_iff]
  exact Text.splitOn_ne_nil _ _

theorem pieces_append_slash (a b : String) : pieces (a ++ "/" ++ b) = pieces a ++ pieces b := by
  have chars : (a ++ "/" ++ b).toList = a.toList ++ '/' :: b.toList := by simp
  rw [pieces, chars, Text.splitOn_append_cons rfl, List.map_append]
  rfl

theorem pieces_of_noSlash {s : String} (noSlash : '/' ∉ s.toList) : pieces s = [s] := by
  have uncut : ∀ c ∈ s.toList, (c == '/') = false := by
    intro c inside
    rw [beq_eq_false_iff_ne]
    rintro rfl
    exact noSlash inside
  rw [pieces, Text.splitOn_eq_singleton uncut]
  simp

theorem noSlash_of_mem_pieces {path piece : String} (member : piece ∈ pieces path) :
    '/' ∉ piece.toList := by
  obtain ⟨chars, inside, rfl⟩ := List.mem_map.mp member
  rw [String.toList_ofList]
  intro slash
  have uncut := Text.uncut_of_mem_splitOn inside _ slash
  simp at uncut

/-- A text that can be the name of a file: it is one piece and has no meaning of its own. -/
structure IsName (s : String) : Prop where
  ne_empty : s ≠ ""
  noSlash : '/' ∉ s.toList
  ne_here : s ≠ "."
  ne_up : s ≠ ".."

instance (s : String) : Decidable (IsName s) :=
  decidable_of_iff (s ≠ "" ∧ '/' ∉ s.toList ∧ s ≠ "." ∧ s ≠ "..")
    ⟨fun ⟨ne_empty, noSlash, ne_here, ne_up⟩ => ⟨ne_empty, noSlash, ne_here, ne_up⟩,
      fun ⟨ne_empty, noSlash, ne_here, ne_up⟩ => ⟨ne_empty, noSlash, ne_here, ne_up⟩⟩

def below (base : String) (names : List String) : String := names.foldl join base

theorem below_concat (base name : String) (names : List String) :
    below base (names ++ [name]) = join (below base names) name := List.foldl_concat ..

theorem exists_eq_append_slash {path : String} (slash : path.toList.getLast? = some '/') :
    ∃ front, path = front ++ "/" := by
  obtain ⟨chars, eq⟩ := List.getLast?_eq_some_iff.mp slash
  refine ⟨String.ofList chars, ?_⟩
  rw [← String.toList_inj, eq]
  simp

/-- The pieces of a joined path: those of the first path without an empty one at the end, then
those of the second. -/
theorem pieces_join {base path : String} (ne : base ≠ "") (relative : isAbsolute path = false) :
    ∃ kept, kept ≠ [] ∧ (pieces base = kept ∨ pieces base = kept ++ [""]) ∧
      pieces (join base path) = kept ++ pieces path := by
  by_cases slash : base.toList.getLast? = some '/'
  · obtain ⟨front, rfl⟩ := exists_eq_append_slash slash
    refine ⟨pieces front, pieces_ne_nil front, .inr ?_, ?_⟩
    · have empty : pieces "" = [""] := pieces_of_noSlash (by simp)
      simpa [empty] using pieces_append_slash front ""
    · simp only [join, relative, slash]
      simpa using pieces_append_slash front path
  · refine ⟨pieces base, pieces_ne_nil base, .inl rfl, ?_⟩
    rw [← pieces_append_slash, join]
    simp [relative, ne, slash]

theorem isAbsolute_append {a : String} (b : String) (ne : a ≠ "") :
    isAbsolute (a ++ b) = isAbsolute a := by
  cases chars : a.toList with
  | nil => exact absurd (String.toList_eq_nil_iff.mp chars) ne
  | cons c cs => simp [isAbsolute, chars]

theorem isAbsolute_join {base path : String} (ne : base ≠ "")
    (relative : isAbsolute path = false) : isAbsolute (join base path) = isAbsolute base := by
  rw [join, if_neg (by simp [relative])]
  split
  · exact isAbsolute_append path ne
  · rw [String.append_assoc]
    exact isAbsolute_append _ ne

theorem innerComponents_append (xs ys : List String) :
    innerComponents (xs ++ ys) = innerComponents xs ++ innerComponents ys :=
  List.filterMap_append

def IsStill (piece : String) : Prop := piece = "" ∨ piece = "."

theorem innerComponents_of_still {pieces : List String} (still : ∀ piece ∈ pieces, IsStill piece) :
    innerComponents pieces = [] := by
  rw [innerComponents, List.filterMap_eq_nil_iff]
  intro piece member
  rcases still piece member with rfl | rfl <;> rfl

theorem innerComponents_of_not_still {piece : String} (moves : ¬ IsStill piece) :
    innerComponents [piece] = [if piece = ".." then .up else .name piece] := by
  rw [IsStill, not_or] at moves
  by_cases up : piece = ".." <;> simp [innerComponents, moves, up]

/-- What a path has in front of the components of its pieces. -/
def anchor (path : String) : List PathComponent :=
  if isAbsolute path then [.root] else if (pieces path).head? = some "." then [.here] else []

theorem components_eq (path : String) :
    components path = anchor path ++ innerComponents (pieces path) := by
  rw [components, anchor]
  by_cases absolute : isAbsolute path = true
  · rw [if_pos absolute, if_pos absolute]
    rfl
  · rw [if_neg absolute, if_neg absolute]
    obtain ⟨first, others, eq⟩ := List.exists_cons_of_ne_nil (pieces_ne_nil path)
    rw [eq]
    by_cases here : first = "."
    · rw [here]
      rfl
    · simp [here]

theorem anchor_eq_of_pieces {path other : String} {kept more less : List String} (ne : kept ≠ [])
    (eq : pieces path = kept ++ more) (other_eq : pieces other = kept ++ less)
    (absolute : isAbsolute path = isAbsolute other) : anchor path = anchor other := by
  rw [anchor, anchor, absolute, eq, other_eq, List.head?_append_of_ne_nil _ ne,
    List.head?_append_of_ne_nil _ ne]

theorem components_join {base path : String} (ne : base ≠ "")
    (relative : isAbsolute path = false) :
    components (join base path) = components base ++ innerComponents (pieces path) := by
  obtain ⟨kept, nonempty, baseAs, joined⟩ := pieces_join ne relative
  obtain ⟨idle, nothing, baseEq⟩ : ∃ idle, innerComponents idle = [] ∧
      pieces base = kept ++ idle := by
    rcases baseAs with eq | eq
    · exact ⟨[], rfl, by rw [eq, List.append_nil]⟩
    · exact ⟨[""], rfl, eq⟩
  have sameAnchor : anchor (join base path) = anchor base :=
    anchor_eq_of_pieces nonempty joined baseEq (isAbsolute_join ne relative)
  rw [components_eq, components_eq base, sameAnchor, joined, baseEq, innerComponents_append,
    innerComponents_append, nothing, List.append_nil, List.append_assoc]

namespace IsName
variable {name : String} (isName : IsName name)
include isName

theorem relative : isAbsolute name = false := by
  cases chars : name.toList with
  | nil => exact absurd (String.toList_eq_nil_iff.mp chars) isName.ne_empty
  | cons c cs =>
    have noSlash := isName.noSlash
    rw [chars, List.mem_cons, not_or] at noSlash
    simpa [isAbsolute, chars] using Ne.symm noSlash.1

theorem innerComponents_pieces : innerComponents (pieces name) = [.name name] := by
  rw [pieces_of_noSlash isName.noSlash,
    innerComponents_of_not_still (not_or.mpr ⟨isName.ne_empty, isName.ne_here⟩),
    if_neg isName.ne_up]

end IsName

theorem join_ne_empty {base path : String} (ne : base ≠ "") (relative : isAbsolute path = false) :
    join base path ≠ "" := by
  rw [join, if_neg (by simp [relative])]
  split <;> simp [ne]

theorem IsName.getLast?_join {base name : String} (isName : IsName name) :
    (join base name).toList.getLast? = name.toList.getLast? := by
  have ne : name.toList ≠ [] := fun eq => isName.ne_empty (String.toList_eq_nil_iff.mp eq)
  obtain ⟨front, eq⟩ : ∃ front, join base name = front ++ name := by
    rw [join, if_neg (by simp [isName.relative])]
    split
    · exact ⟨base, rfl⟩
    · exact ⟨base ++ "/", rfl⟩
  rw [eq, String.toList_append, List.getLast?_append_of_ne_nil _ ne]

def strides (path : String) : List String := (pieces path).filter (· != "")

theorem strides_join {base path : String} (ne : base ≠ "")
    (relative : isAbsolute path = false) :
    strides (join base path) = strides base ++ strides path := by
  obtain ⟨kept, -, baseAs | baseAs, joined⟩ := pieces_join ne relative <;>
    simp [strides, joined, baseAs]

theorem IsName.strides_eq {name : String} (isName : IsName name) : strides name = [name] := by
  rw [strides, pieces_of_noSlash isName.noSlash]
  simp [isName.ne_empty]

/-- The pieces of a path whose components are names are these names, and some that do not count. -/
theorem names_of_innerComponents {names pieces : List String}
    (eq : innerComponents pieces = names.map .name) :
    (pieces.filter (· != "")).filter (· != ".") = names := by
  induction pieces generalizing names with
  | nil =>
    rw [innerComponents, List.filterMap_nil, eq_comm, List.map_eq_nil_iff] at eq
    rw [eq]
    rfl
  | cons piece pieces ih =>
    by_cases still : IsStill piece
    · rcases still with rfl | rfl
      · exact ih eq
      · exact ih eq
    · have cons := innerComponents_append [piece] pieces
      rw [List.singleton_append, eq, innerComponents_of_not_still still] at cons
      rw [IsStill, not_or] at still
      cases names with
      | nil => cases cons
      | cons name names =>
        rw [List.map_cons, List.singleton_append, List.cons.injEq] at cons
        obtain ⟨first, others⟩ := cons
        split at first
        case isTrue => cases first
        case isFalse =>
          cases first
          rw [List.filter_cons_of_pos (by simpa using still.1),
            List.filter_cons_of_pos (by simpa using still.2), ih others.symm]

/-- A path whose components are names is relative, and is made of these names. -/
structure NamesOnly (path : String) (names : List String) : Prop where
  relative : isAbsolute path = false
  inner_eq : innerComponents (pieces path) = names.map .name
  named : ∀ name ∈ names, IsName name

theorem namesOnly_of_components {path : String} {names : List String}
    (eq : components path = names.map .name) : NamesOnly path names := by
  have relative : isAbsolute path = false := by
    cases absolute : isAbsolute path with
    | false => rfl
    | true =>
      rw [components_eq, anchor, if_pos absolute] at eq
      cases names <;> cases eq
  have unanchored : anchor path = [] := by
    cases start : anchor path with
    | nil => rfl
    | cons c cs =>
      rw [anchor, relative, if_neg Bool.false_ne_true] at start
      rw [components_eq, anchor, relative, if_neg Bool.false_ne_true, start] at eq
      split at start <;> cases start
      cases names <;> cases eq
  rw [components_eq, unanchored, List.nil_append] at eq
  refine ⟨relative, eq, fun name member => ?_⟩
  have inside : name ∈ ((pieces path).filter (· != "")).filter (· != ".") := by
    rwa [names_of_innerComponents eq]
  simp only [List.mem_filter, bne_iff_ne] at inside
  refine ⟨inside.1.2, noSlash_of_mem_pieces inside.1.1, inside.2, ?_⟩
  rintro rfl
  have up : PathComponent.up ∈ innerComponents (pieces path) :=
    List.mem_filterMap.mpr ⟨"..", inside.1.1, rfl⟩
  rw [eq] at up
  simp at up

/-- A path that goes on from a base with names. -/
structure Extends (base : String) (names : List String) (path : String) : Prop where
  ne_empty : path ≠ ""
  isAbsolute_eq : isAbsolute path = isAbsolute base
  components_eq : components path = components base ++ names.map .name
  strides_eq : strides path = strides base ++ names

namespace Extends

variable {base path last name : String} {names more : List String}

theorem refl (ne : base ≠ "") : Extends base [] base := ⟨ne, rfl, by simp, by simp⟩

theorem trans (first : Extends base names path) (second : Extends path more last) :
    Extends base (names ++ more) last where
  ne_empty := second.ne_empty
  isAbsolute_eq := second.isAbsolute_eq.trans first.isAbsolute_eq
  components_eq := by
    rw [second.components_eq, first.components_eq, List.append_assoc, List.map_append]
  strides_eq := by rw [second.strides_eq, first.strides_eq, List.append_assoc]

theorem join (ne : base ≠ "") (isName : IsName name) : Extends base [name] (join base name) where
  ne_empty := join_ne_empty ne isName.relative
  isAbsolute_eq := isAbsolute_join ne isName.relative
  components_eq := by
    rw [components_join ne isName.relative, isName.innerComponents_pieces]
    rfl
  strides_eq := by rw [strides_join ne isName.relative, isName.strides_eq]

theorem below (ne : base ≠ "") (named : ∀ name ∈ names, IsName name) :
    Extends base names (below base names) := by
  induction names generalizing base with
  | nil => exact refl ne
  | cons name names ih =>
    rw [List.forall_mem_cons] at named
    have first := join ne named.1
    exact first.trans (ih first.ne_empty named.2)

/-- Different names lead to different paths. -/
theorem names_unique {other : String} (one : Extends base names path)
    (another : Extends base more other) (same : components path = components other) :
    names = more := by
  rw [one.components_eq, another.components_eq] at same
  have injective : Function.Injective PathComponent.name := fun _ _ => PathComponent.name.inj
  exact injective.list_map (List.append_cancel_left same)

end Extends
end Path

namespace FileTree

open DocLint.Path

theorem steps_eq_strides_append (path : String) :
    ∃ tail, (tail = [] ∨ tail = ["."]) ∧ steps path = strides path ++ tail := by
  by_cases slash : path.toList.getLast? = some '/'
  · exact ⟨["."], .inr rfl, by simp [steps, slash, strides]⟩
  · exact ⟨[], .inl rfl, by simp [steps, slash, strides]⟩

/-- Every path has a step, even one of nothing but slashes. -/
theorem steps_ne_nil {path : String} (ne : path ≠ "") : steps path ≠ [] := by
  rw [steps]
  split
  case isTrue => simp
  case isFalse noSlash =>
    have chars : path.toList ≠ [] := fun nil => ne (String.toList_eq_nil_iff.mp nil)
    obtain ⟨front, c, eq⟩ := (List.eq_nil_or_concat path.toList).resolve_left chars
    have uncut : (c == '/') = false := by
      rw [eq, List.concat_eq_append, List.getLast?_concat] at noSlash
      simpa using noSlash
    have inside : c ∈ path.toList := by simp [eq]
    obtain ⟨piece, member, found⟩ :
        ∃ piece ∈ Text.splitOn (· == '/') path.toList, c ∈ piece :=
      Text.exists_mem_splitOn inside uncut
    have solid : String.ofList piece ≠ "" := by
      intro empty
      rw [← String.toList_eq_nil_iff, String.toList_ofList] at empty
      simp [empty] at found
    exact List.ne_nil_of_mem
      (List.mem_filter.mpr ⟨List.mem_map_of_mem member, by simpa using solid⟩)

/-- A path that ends with a name has no step but its pieces. -/
theorem steps_below {base : String} {names : List String} (ne : base ≠ "") (ne_nil : names ≠ [])
    (named : ∀ name ∈ names, IsName name) : steps (below base names) = strides base ++ names := by
  rw [← (Extends.below ne named).strides_eq]
  obtain ⟨front, name, rfl⟩ := (List.eq_nil_or_concat names).resolve_left ne_nil
  have isName := named name (by simp)
  have noSlash : (below base (front ++ [name])).toList.getLast? ≠ some '/' := by
    rw [below_concat, isName.getLast?_join]
    exact fun last => isName.noSlash (List.mem_of_getLast? last)
  simp [steps, noSlash, strides]

end FileTree
end DocLint
