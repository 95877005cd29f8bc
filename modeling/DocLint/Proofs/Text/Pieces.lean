import DocLint.Proofs.Text.Splitting
import Mathlib.Data.List.TakeWhile

/-!
# The pieces of a text

A text that is cut after its line ends falls into pieces that hold one line end each, at their end;
only the last one may lack it. Lists of such pieces are exactly what cutting gives.
-/
namespace DocLint.Text

variable {ends : Char → Bool} {s piece : List Char} {before after : List (List Char)}

def IsClosed (ends : Char → Bool) (piece : List Char) : Prop :=
  ∃ front c, piece = front ++ [c] ∧ ends c = true ∧ ∀ x ∈ front, ends x = false

/-- Pieces as cutting gives them: only the last one may lack its line end. -/
inductive Pieces (ends : Char → Bool) : List (List Char) → Prop
  | nil : Pieces ends []
  | last {piece : List Char} (some : piece ≠ []) (uncut : ∀ x ∈ piece, ends x = false) :
      Pieces ends [piece]
  | cons {piece : List Char} {pieces : List (List Char)} (closed : IsClosed ends piece)
      (rest : Pieces ends pieces) : Pieces ends (piece :: pieces)

theorem splitAfter_closed (closed : IsClosed ends piece) (rest : List Char) :
    splitAfter ends (piece ++ rest) = piece :: splitAfter ends rest := by
  obtain ⟨front, c, rfl, cut, uncut⟩ := closed
  rw [List.append_assoc, List.singleton_append, splitAfter_append_cons cut,
    splitAfter_line cut uncut, List.singleton_append]

theorem splitAfter_uncut (some : s ≠ []) (uncut : ∀ x ∈ s, ends x = false) :
    splitAfter ends s = [s] := by
  induction s with
  | nil => exact absurd rfl some
  | cons x r ih =>
    rw [List.forall_mem_cons] at uncut
    cases r with
    | nil => simp [splitAfter, uncut.1]
    | cons y r =>
      rw [splitAfter, ih (List.cons_ne_nil y r) uncut.2, uncut.1]
      rfl

/-- A text that is not empty starts with a closed piece or has no line end. -/
theorem exists_first_piece (ends : Char → Bool) (s : List Char) :
    (∃ piece rest, s = piece ++ rest ∧ IsClosed ends piece) ∨ ∀ x ∈ s, ends x = false := by
  have whole : s.takeWhile (!ends ·) ++ s.dropWhile (!ends ·) = s :=
    List.takeWhile_append_dropWhile
  have uncut : ∀ x ∈ s.takeWhile (!ends ·), ends x = false := fun x inside => by
    simpa using List.mem_takeWhile_imp inside
  have stops := List.head?_dropWhile_not (!ends ·) s
  cases tail : s.dropWhile (!ends ·) with
  | nil =>
    rw [tail, List.append_nil] at whole
    exact .inr (whole ▸ uncut)
  | cons c rest =>
    rw [tail] at stops whole
    refine .inl ⟨s.takeWhile (!ends ·) ++ [c], rest, ?_, _, c, rfl, by simpa using stops, uncut⟩
    rw [List.append_assoc, List.singleton_append, whole]

theorem pieces_splitAfter (ends : Char → Bool) (s : List Char) :
    Pieces ends (splitAfter ends s) := by
  induction length : s.length using Nat.strong_induction_on generalizing s with
  | _ n ih =>
    subst length
    rcases exists_first_piece ends s with ⟨piece, rest, rfl, closed⟩ | uncut
    · rw [splitAfter_closed closed]
      refine .cons closed (ih rest.length ?_ rest rfl)
      obtain ⟨front, c, rfl, -, -⟩ := closed
      simp only [List.length_append, List.length_cons, List.length_nil]
      omega
    · cases s with
      | nil => exact .nil
      | cons x r =>
        rw [splitAfter_uncut (List.cons_ne_nil x r) uncut]
        exact .last (List.cons_ne_nil x r) uncut

namespace Pieces

/-- Pieces that are put together are found again. -/
theorem splitAfter_flatten {pieces : List (List Char)} (isPieces : Pieces ends pieces) :
    splitAfter ends pieces.flatten = pieces := by
  induction isPieces with
  | nil => rfl
  | last some uncut => rw [List.flatten_singleton, splitAfter_uncut some uncut]
  | cons closed _ ih => rw [List.flatten_cons, splitAfter_closed closed, ih]

/-- What stands in front of a piece is closed. -/
theorem of_append_cons (isPieces : Pieces ends (before ++ piece :: after)) :
    Pieces ends before ∧ (∀ p ∈ before, IsClosed ends p) ∧ Pieces ends (piece :: after) := by
  induction before with
  | nil => exact ⟨.nil, by simp, isPieces⟩
  | cons first before ih =>
    rw [List.cons_append] at isPieces
    generalize eq : before ++ piece :: after = later at isPieces
    cases isPieces with
    | last => simp at eq
    | cons closed rest =>
      obtain ⟨front, all, back⟩ := ih (eq ▸ rest)
      exact ⟨.cons closed front, List.forall_mem_cons.mpr ⟨closed, all⟩, back⟩

end Pieces

theorem IsClosed.getLast?_eq (closed : IsClosed ends piece) :
    ∃ c, piece.getLast? = some c ∧ ends c = true := by
  obtain ⟨front, c, rfl, cut, -⟩ := closed
  exact ⟨c, List.getLast?_concat, cut⟩

/-- Closed pieces end with a line end. -/
theorem getLast?_flatten_of_closed {pieces : List (List Char)}
    (all : ∀ p ∈ pieces, IsClosed ends p) :
    pieces.flatten = [] ∨ ∃ c, pieces.flatten.getLast? = some c ∧ ends c = true := by
  rcases List.eq_nil_or_concat pieces with rfl | ⟨front, last, rfl⟩
  · exact .inl rfl
  · right
    obtain ⟨c, ends', cut⟩ := (all last (by simp)).getLast?_eq
    refine ⟨c, ?_, cut⟩
    rw [List.concat_eq_append, List.flatten_append, List.flatten_singleton,
      List.getLast?_append, ends', Option.some_or]

end DocLint.Text
