import DocLint.Proofs.FileTree.Lookup

/-!
# Spellings of a path and its parent

Two paths are the same when they differ in nothing but pieces that do not count. The parent of a
path has its components without the last one, and every path that denotes a file has a parent.
-/
namespace DocLint

namespace Path

/-- An absolute path has an empty piece before others. -/
theorem isAbsolute_iff {path : String} :
    isAbsolute path = true ↔ ∃ piece others, pieces path = "" :: piece :: others := by
  have empty : pieces "" = [""] := pieces_of_noSlash (by simp)
  constructor
  · intro absolute
    obtain ⟨rest, eq⟩ : ∃ rest, path.toList = '/' :: rest := by
      rw [isAbsolute, beq_iff_eq, List.head?_eq_some_iff] at absolute
      exact absolute
    have cut : path = "" ++ "/" ++ String.ofList rest := by
      rw [← String.toList_inj, eq]
      simp
    obtain ⟨piece, others, more⟩ := List.exists_cons_of_ne_nil (pieces_ne_nil (String.ofList rest))
    exact ⟨piece, others, by rw [cut, pieces_append_slash, empty, more]; rfl⟩
  · rintro ⟨piece, others, eq⟩
    cases chars : path.toList with
    | nil =>
      rw [String.toList_eq_nil_iff.mp chars, empty] at eq
      cases eq
    | cons c cs =>
      by_cases slash : c = '/'
      · simp [isAbsolute, chars, slash]
      · rw [pieces, chars, Text.splitOn, if_neg (by simpa using slash)] at eq
        split at eq <;> simp at eq

theorem pieces_intercalate {kept : List String} (ne : kept ≠ [])
    (noSlash : ∀ piece ∈ kept, '/' ∉ piece.toList) : pieces ("/".intercalate kept) = kept := by
  induction kept with
  | nil => exact absurd rfl ne
  | cons piece kept ih =>
    rw [List.forall_mem_cons] at noSlash
    by_cases last : kept = []
    · rw [last, String.intercalate_singleton, pieces_of_noSlash noSlash.1]
    · rw [String.intercalate_cons_of_ne_nil last, pieces_append_slash, ih last noSlash.2,
        pieces_of_noSlash noSlash.1]
      rfl

/-! ### The parent -/

theorem dropIdle_split (reversed : List String) :
    ∃ still, reversed = still ++ dropIdle reversed ∧ ∀ piece ∈ still, IsStill piece := by
  induction reversed with
  | nil => exact ⟨[], rfl, by simp⟩
  | cons piece before ih =>
    rw [dropIdle]
    split
    case isTrue idle =>
      obtain ⟨still, eq, isStill⟩ := ih
      refine ⟨piece :: still, by rw [List.cons_append, ← eq], ?_⟩
      rw [List.forall_mem_cons]
      refine ⟨?_, isStill⟩
      rw [isIdle, Bool.or_eq_true, Bool.and_eq_true, beq_iff_eq, beq_iff_eq] at idle
      exact idle.imp_right And.left
    case isFalse => exact ⟨[], rfl, by simp⟩

/-- What is left ends with a piece that counts: only at the start of a path, `.` does so, too. -/
theorem not_idle_of_dropIdle {reversed before : List String} {piece : String}
    (eq : dropIdle reversed = piece :: before) : isIdle piece before = false := by
  induction reversed with
  | nil => cases eq
  | cons x xs ih =>
    rw [dropIdle] at eq
    split at eq
    case isTrue => exact ih eq
    case isFalse counts =>
      cases eq
      simpa using counts

/-- If nothing is left, the path starts with an empty piece. -/
theorem exists_concat_of_dropIdle {reversed : List String} (ne : reversed ≠ [])
    (eq : dropIdle reversed = []) : ∃ others, reversed = others ++ [""] := by
  induction reversed with
  | nil => exact absurd rfl ne
  | cons x xs ih =>
    rw [dropIdle] at eq
    split at eq
    case isFalse => cases eq
    case isTrue idle =>
      by_cases last : xs = []
      · rw [last, isIdle] at idle
        exact ⟨[], by simpa [last] using idle⟩
      · obtain ⟨others, rfl⟩ := ih last eq
        exact ⟨x :: others, rfl⟩

/-- A path without a parent is made of pieces that do not count. -/
theorem still_of_parent?_eq_none {path : String} (orphan : parent? path = none) :
    ∀ piece ∈ pieces path, IsStill piece := by
  rw [parent?] at orphan
  obtain ⟨still, eq, isStill⟩ := dropIdle_split (pieces path).reverse
  split at orphan
  case h_1 none_left =>
    rw [none_left, List.append_nil] at eq
    intro piece member
    exact isStill piece (eq ▸ List.mem_reverse.mpr member)
  case h_2 => split at orphan <;> cases orphan

/-- A path with one piece that counts has one component, so nothing is left without it. -/
theorem dropLast_components_of_single {path piece : String} {still : List String}
    (eq : pieces path = piece :: still) (isStill : ∀ piece ∈ still, IsStill piece)
    (ne : piece ≠ "") : isAbsolute path = false ∧ (components path).dropLast = [] := by
  have relative : isAbsolute path = false := by
    rw [← Bool.not_eq_true, isAbsolute_iff]
    rintro ⟨_, _, cut⟩
    exact ne (List.cons.inj (eq.symm.trans cut)).1
  have inner : innerComponents (pieces path) = innerComponents [piece] := by
    rw [eq, ← List.singleton_append, innerComponents_append, innerComponents_of_still isStill,
      List.append_nil]
  refine ⟨relative, ?_⟩
  rw [components_eq, inner, anchor, relative, eq, List.head?_cons]
  by_cases here : piece = "."
  · rw [here]
    rfl
  · rw [innerComponents_of_not_still (not_or.mpr ⟨ne, here⟩)]
    simp [here]

/-- What stands in front of a last piece that counts has the other components. -/
theorem dropLast_components {path last : String} {front still : List String}
    (eq : pieces path = front ++ ([last] ++ still)) (isStill : ∀ piece ∈ still, IsStill piece)
    (moves : ¬ IsStill last) :
    (components path).dropLast = anchor path ++ innerComponents front := by
  rw [components_eq, eq, innerComponents_append, innerComponents_append,
    innerComponents_of_not_still moves, innerComponents_of_still isStill, List.append_nil,
    ← List.append_assoc, List.dropLast_concat]

/-- The first pieces of a path are a path made of them. -/
theorem pieces_front {path : String} {front more : List String} (ne : front ≠ [])
    (eq : pieces path = front ++ more) : pieces ("/".intercalate front) = front := by
  apply pieces_intercalate ne
  intro piece member
  exact noSlash_of_mem_pieces (eq ▸ List.mem_append_left more member)

/-- The first pieces of a path, taken as a path, start where that path starts. -/
theorem isAbsolute_front {path last : String} {front more : List String} (ne : last ≠ "")
    (eq : pieces path = front ++ [last] ++ more) :
    isAbsolute ("/".intercalate (front ++ [last])) = isAbsolute path := by
  have cut := pieces_front (by simp) eq
  rw [Bool.eq_iff_iff, isAbsolute_iff, isAbsolute_iff, cut, eq]
  cases front with
  | nil => simp [ne]
  | cons first others => cases others <;> simp

theorem components_intercalate {path last : String} {front more : List String}
    (ne : last ≠ "") (eq : pieces path = front ++ [last] ++ more) :
    components ("/".intercalate (front ++ [last])) =
      anchor path ++ innerComponents (front ++ [last]) := by
  have cut := pieces_front (by simp) eq
  have anchors : anchor ("/".intercalate (front ++ [last])) = anchor path :=
    anchor_eq_of_pieces (by simp) (cut.trans (List.append_nil _).symm) eq (isAbsolute_front ne eq)
  rw [components_eq, anchors, cut]

/-- If none of the pieces in front of others counts, the root is in front of the others. -/
theorem root_of_front {path : String} {reversed more : List String} (ne : reversed ≠ [])
    (followed : more ≠ []) (eq : pieces path = reversed.reverse ++ more)
    (left : dropIdle reversed = []) :
    isAbsolute path = true ∧ innerComponents reversed.reverse = [] := by
  obtain ⟨idle, split, still⟩ := dropIdle_split reversed
  rw [left, List.append_nil] at split
  obtain ⟨others, start⟩ := exists_concat_of_dropIdle ne left
  obtain ⟨piece, rest, cut⟩ := List.exists_cons_of_ne_nil
    (List.append_ne_nil_of_right_ne_nil others.reverse followed)
  constructor
  · rw [isAbsolute_iff, eq, start, List.reverse_concat, List.cons_append]
    exact ⟨piece, rest, by rw [cut]⟩
  · rw [split]
    exact innerComponents_of_still fun piece member => still piece (List.mem_reverse.mp member)

/-- Otherwise these pieces, without those at their end that do not count, are a path with their
components. -/
theorem components_of_front {path : String} {reversed more : List String}
    (eq : pieces path = reversed.reverse ++ more) (some_left : dropIdle reversed ≠ []) :
    components ("/".intercalate (dropIdle reversed).reverse) =
      anchor path ++ innerComponents reversed.reverse := by
  obtain ⟨idle, split, still⟩ := dropIdle_split reversed
  have idles : innerComponents idle.reverse = [] :=
    innerComponents_of_still fun piece member => still piece (List.mem_reverse.mp member)
  obtain ⟨last, before, left⟩ := List.exists_cons_of_ne_nil some_left
  have counts := not_idle_of_dropIdle left
  rw [isIdle, Bool.or_eq_false_iff, beq_eq_false_iff_ne] at counts
  rw [left] at split
  rw [split, List.reverse_append, List.reverse_cons] at eq
  rw [left, split, List.reverse_append, List.reverse_cons, innerComponents_append, idles,
    List.append_nil]
  exact components_intercalate counts.1 (eq.trans (List.append_assoc ..))

/-- How the parent comes from the path: what stands in front of the last piece that counts, without
the pieces at its end that do not count; or the root, if nothing is left of an absolute path. -/
theorem parent?_eq_some {path parent : String} (isParent : parent? path = some parent) :
    ∃ before last still, pieces path = before.reverse ++ ([last] ++ still) ∧
      (∀ piece ∈ still, IsStill piece) ∧ isIdle last before = false ∧
      (dropIdle before = [] ∧ parent = (if isAbsolute path then "/" else "") ∨
        dropIdle before ≠ [] ∧ parent = "/".intercalate (dropIdle before).reverse) := by
  rw [parent?] at isParent
  obtain ⟨still, eq, isStill⟩ := dropIdle_split (pieces path).reverse
  split at isParent
  case h_1 => cases isParent
  case h_2 last before ends =>
    refine ⟨before, last, still.reverse, ?_, ?_, not_idle_of_dropIdle ends, ?_⟩
    · rw [ends, List.reverse_eq_iff] at eq
      simp [eq]
    · intro piece member
      exact isStill piece (List.mem_reverse.mp member)
    · split at isParent
      case h_1 nothing => exact .inl ⟨nothing, (Option.some.inj isParent).symm⟩
      case h_2 something => exact .inr ⟨something, (Option.some.inj isParent).symm⟩

/-- The parent has the components of the path without the last one. -/
theorem components_of_parent? {path parent : String} (isParent : parent? path = some parent) :
    components parent = (components path).dropLast := by
  obtain ⟨before, last, still, cut, tail, counts, shape⟩ := parent?_eq_some isParent
  rw [isIdle, Bool.or_eq_false_iff, beq_eq_false_iff_ne] at counts
  by_cases first : before = []
  · subst first
    obtain ⟨relative, single⟩ := dropLast_components_of_single cut tail counts.1
    rcases shape with ⟨-, rfl⟩ | ⟨something, -⟩
    · rw [relative, single]
      rfl
    · exact absurd rfl something
  · have moves : ¬ IsStill last := by
      rintro (empty | here)
      · exact counts.1 empty
      · simp [here, first] at counts
    rw [dropLast_components cut tail moves]
    rcases shape with ⟨nothing, rfl⟩ | ⟨something, rfl⟩
    · obtain ⟨absolute, none⟩ := root_of_front first (by simp) cut nothing
      have root : components "/" = [.root] := rfl
      rw [if_pos absolute, root, none, anchor, if_pos absolute, List.append_nil]
    · exact components_of_front cut something

/-! ### Spellings -/

/-- Two paths are the same if one of them has pieces in between that do not count. -/
theorem same_of_pieces {a b : String} {kept still more : List String} (ne : kept ≠ [])
    (isStill : ∀ piece ∈ still, IsStill piece) (cut : pieces a = kept ++ (still ++ more))
    (other : pieces b = kept ++ more) (absolute : isAbsolute a = isAbsolute b) :
    same a b = true := by
  have anchors := anchor_eq_of_pieces ne cut other absolute
  rw [same_iff_components_eq, components_eq, components_eq b, anchors, cut, other,
    innerComponents_append, innerComponents_append, innerComponents_append,
    innerComponents_of_still isStill, List.nil_append]

theorem IsStill.pieces_eq {piece : String} (still : IsStill piece) : pieces piece = [piece] := by
  refine pieces_of_noSlash ?_
  rcases still with rfl | rfl <;> decide

/-- A piece that does not count may stand between two slashes. -/
theorem same_of_still_inside (a b : String) {piece : String} (still : IsStill piece) :
    same (a ++ "/" ++ piece ++ "/" ++ b) (a ++ "/" ++ b) = true := by
  refine same_of_pieces (pieces_ne_nil a) (List.forall_mem_singleton.mpr still) ?_
    (pieces_append_slash a b) ?_
  · rw [pieces_append_slash, pieces_append_slash, still.pieces_eq, List.append_assoc]
  · cases chars : a.toList <;> simp [isAbsolute, chars]

/-- A piece that does not count may stand after a slash at the end. -/
theorem same_of_still_last {a piece : String} (ne : a ≠ "") (still : IsStill piece) :
    same (a ++ "/" ++ piece) a = true := by
  refine same_of_pieces (pieces_ne_nil a) (List.forall_mem_singleton.mpr still) ?_
    (List.append_nil _).symm ?_
  · rw [pieces_append_slash, still.pieces_eq, List.append_nil]
  · rw [String.append_assoc, isAbsolute_append _ ne]

end Path

namespace FileTree

open DocLint.Path

variable {tree : FileTree} {links left : Nat} {place path found : List String}

/-- Steps that do not count are taken in a directory and stay there. -/
theorem reaches_of_still (still : ∀ step ∈ path, step = ".")
    (reaches : Reaches tree links place path left found) : found = place := by
  induction path with
  | nil =>
    cases reaches
    rfl
  | cons step rest ih =>
    rw [List.forall_mem_cons] at still
    obtain ⟨rfl, others⟩ := still
    cases reaches with
    | step first next =>
      obtain ⟨rfl, rfl, rfl⟩ := eq_of_advance_here first
      exact ih others next

theorem thinned_of_still (still : ∀ piece ∈ path, IsStill piece) :
    Thinned (path.filter (· != "")) [] := by
  have thinned := Thinned.filter (path.filter (· != ""))
  have none : (path.filter (· != "")).filter (· != ".") = [] := by
    rw [List.filter_filter]
    apply List.filter_eq_nil_iff.mpr
    intro piece member
    rcases still piece member with rfl | rfl <;> simp
  rwa [none] at thinned

/-- The steps of a path go through those of its parent. -/
theorem strides_of_parent? {base parent : String} (isParent : Path.parent? base = some parent) :
    ∃ front last more, strides base = front ++ last :: more ∧ Thinned front (strides parent) ∧
      (parent = "" → Path.isAbsolute base = false) ∧
      (parent ≠ "" → Path.isAbsolute parent = Path.isAbsolute base) := by
  obtain ⟨before, last, still, eq, -, counts, shape⟩ := parent?_eq_some isParent
  rw [isIdle, Bool.or_eq_false_iff, beq_eq_false_iff_ne] at counts
  refine ⟨before.reverse.filter (· != ""), last, still.filter (· != ""), ?_, ?_⟩
  · simp [strides, eq, counts.1]
  obtain ⟨idle, split, isStill⟩ := dropIdle_split before
  have idles : ∀ piece ∈ idle.reverse, IsStill piece := fun piece member =>
    isStill piece (List.mem_reverse.mp member)
  rcases shape with ⟨nothing, rfl⟩ | ⟨something, rfl⟩
  · rw [nothing, List.append_nil] at split
    have thinned := thinned_of_still (split ▸ idles)
    cases absolute : Path.isAbsolute base with
    | false => exact ⟨thinned, fun _ => rfl, fun ne => absurd (by simp) ne⟩
    | true => exact ⟨thinned, fun empty => absurd empty (by simp), fun _ => rfl⟩
  · obtain ⟨counting, others, kept⟩ := List.exists_cons_of_ne_nil something
    have solid := not_idle_of_dropIdle kept
    rw [isIdle, Bool.or_eq_false_iff, beq_eq_false_iff_ne] at solid
    rw [kept] at split
    rw [kept, List.reverse_cons]
    have whole : pieces base =
        others.reverse ++ [counting] ++ (idle.reverse ++ ([last] ++ still)) := by
      rw [eq, split]
      simp
    have parts := pieces_front (by simp) whole
    refine ⟨?_, fun empty => ?_, fun _ => isAbsolute_front solid.1 whole⟩
    · have front := Thinned.refl ((others.reverse ++ [counting]).filter (· != ""))
      have whole := front.append (thinned_of_still idles)
      rw [← List.filter_append, List.append_nil] at whole
      rwa [strides, parts, split, List.reverse_append, List.reverse_cons]
    · rw [empty, pieces_of_noSlash (by simp)] at parts
      have same : others.reverse ++ [counting] = [] ++ [""] := parts.symm
      exact absurd (List.append_inj' same rfl).2 (by simpa using solid.1)

/-- The parent of a path that denotes something denotes a directory. An empty parent denotes nothing
by itself; the path starts in the working directory then, and that is a directory. -/
theorem directory_of_parent? {base parent : String} {node : Node}
    (isParent : Path.parent? base = some parent) (resolved : tree.resolve base = .ok node) :
    ∃ place entries, tree.root.at? place = some (.directory entries) ∧
      (parent = "" → Path.isAbsolute base = false ∧ place = tree.workDir) ∧
      (parent ≠ "" → tree.locate true parent = .ok place) := by
  obtain ⟨front, last, more, cut, thinned, relative, absolute⟩ := strides_of_parent? isParent
  obtain ⟨-, left, place, reaches, -⟩ := reaches_of_resolve resolved
  rw [cut] at reaches
  obtain ⟨between, middle, toParent, onward⟩ := reaches.split
  obtain ⟨entries, inside⟩ :
      ∃ entries, tree.root.at? middle.reverse = some (.directory entries) := by
    cases onward with
    | step first _ => exact first.inside
  have toParent := thinned.reaches toParent
  refine ⟨middle.reverse, entries, inside, ?_, ?_⟩
  · intro empty
    have none : strides parent = [] := by rw [empty]; rfl
    rw [none] at toParent
    cases toParent
    refine ⟨relative empty, ?_⟩
    simp [origin, relative empty]
  · intro ne
    refine locate_eq_ok_iff.mpr ⟨ne, ?_⟩
    have start : tree.origin parent = tree.origin base := by
      rw [origin, origin, absolute ne]
    obtain ⟨tail, isTail, eq⟩ := steps_eq_strides_append parent
    rw [List.reverse_reverse, start, eq]
    rcases isTail with rfl | rfl
    · exact ⟨between, toParent.append .done⟩
    · exact ⟨between, toParent.append (.step (.here inside) .done)⟩

/-- Every path that denotes a file has a parent. -/
theorem exists_parent_of_isFile {base : String} (file : tree.isFile base = true) :
    ∃ parent, Path.parent? base = some parent := by
  cases orphan : Path.parent? base with
  | some parent => exact ⟨parent, rfl⟩
  | none =>
    exfalso
    obtain ⟨bytes, resolved⟩ := isFile_iff.mp file
    obtain ⟨ne, left, place, reaches, here⟩ := resolve_eq_ok_iff.mp resolved
    have still : ∀ step ∈ steps base, step = "." := by
      obtain ⟨tail, isTail, eq⟩ := steps_eq_strides_append base
      intro step member
      rw [eq, List.mem_append] at member
      rcases member with stride | inTail
      · obtain ⟨piece, solid⟩ := List.mem_filter.mp stride
        exact (still_of_parent?_eq_none orphan step piece).resolve_left (by simpa using solid)
      · rcases isTail with rfl | rfl
        · cases inTail
        · exact List.mem_singleton.mp inTail
    have stays := reaches_of_still still reaches
    obtain ⟨step, rest, eq⟩ := List.exists_cons_of_ne_nil (steps_ne_nil ne)
    rw [eq] at reaches
    cases reaches with
    | step first next =>
      obtain ⟨entries, inside⟩ := first.inside
      rw [stays, inside] at here
      cases here

end FileTree
end DocLint
