import DocLint.Proofs.Text.Pieces
import DocLint.Proofs.Text.Trimming
import Mathlib.Data.List.Flatten

/-!
# What is left of a text

Trimming, cutting into lines and leaving out separators delete characters and do nothing else: what
is left is a sublist of the text. Joining puts separators in, but no more of them than stood between
the pieces that are joined.
-/
namespace DocLint.Text

variable {separates : Char → Bool} {separator s line : List Char} {pieces : List (List Char)}

/-! ### Trimming -/

theorem trimEnd_sublist (s : List Char) : (trimEnd s).Sublist s := by
  have kept : (trimStart s.reverse).reverse.Sublist s.reverse.reverse :=
    (List.dropWhile_sublist isBlank).reverse
  rwa [List.reverse_reverse] at kept

theorem trim_sublist (s : List Char) : (trim s).Sublist s :=
  (trimEnd_sublist (trimStart s)).trans (List.dropWhile_sublist isBlank)

/-! ### Lines -/

theorem chomp_sublist (line : List Char) : (chomp line).Sublist line := by
  obtain ⟨lineBreak, eq, -⟩ := exists_eq_chomp_append line
  have kept := List.sublist_append_left (chomp line) lineBreak
  rwa [← eq] at kept

theorem chomp_concat_sublist (front : List Char) : (chomp (front ++ ['\n'])).Sublist front := by
  rw [chomp, List.reverse_concat]
  split
  case h_1 rest same =>
    rw [List.reverse_eq_iff.mp (List.cons.inj same).2, List.reverse_cons]
    exact List.sublist_append_left _ _
  case h_2 rest _ same =>
    obtain rfl : front = rest.reverse := List.reverse_eq_iff.mp (List.cons.inj same).2
    exact List.Sublist.refl rest.reverse
  case h_3 other => exact absurd rfl (other front.reverse)

theorem notMem_of_mem_lines (member : line ∈ lines s) : '\n' ∉ line := by
  obtain ⟨piece, isPiece, rfl⟩ := List.mem_map.mp member
  have cut := pieces_splitAfter (· == '\n') s
  have feedless {front : List Char} (uncut : ∀ x ∈ front, (x == '\n') = false) : '\n' ∉ front :=
    fun inside => absurd (uncut '\n' inside) (by decide)
  generalize splitAfter (· == '\n') s = pieces at isPiece cut
  induction cut with
  | nil => cases isPiece
  | last _ uncut =>
    rw [List.mem_singleton.mp isPiece]
    exact fun inside => feedless uncut ((chomp_sublist _).subset inside)
  | cons closed _ ih =>
    rcases List.mem_cons.mp isPiece with rfl | later
    · obtain ⟨front, c, rfl, feed, uncut⟩ := closed
      rw [beq_iff_eq.mp feed]
      exact fun inside => feedless uncut ((chomp_concat_sublist front).subset inside)
    · exact ih later

theorem flatten_lines_sublist (s : List Char) : (lines s).flatten.Sublist s := by
  have kept := List.Sublist.flatMap_right (splitAfter (· == '\n') s) (f := chomp) (g := id)
    fun piece _ => chomp_sublist piece
  rwa [List.flatMap_id, flatten_splitAfter] at kept

/-! ### Pieces between separators -/

theorem flatten_splitOn (separates : Char → Bool) (s : List Char) :
    (splitOn separates s).flatten = s.filter (!separates ·) := by
  induction s with
  | nil => rfl
  | cons c s ih =>
    rw [splitOn]
    cases cut : separates c with
    | true => simp [cut, ih]
    | false =>
      cases split : splitOn separates s with
      | nil => exact absurd split (splitOn_ne_nil separates s)
      | cons piece more =>
        rw [split] at ih
        simp [cut, ← ih]

theorem joinWith_singleton (separator piece : List Char) : joinWith separator [piece] = piece := by
  rw [joinWith, List.intersperse_singleton, List.flatten_singleton]

theorem joinWith_cons_cons (separator first second : List Char) (pieces : List (List Char)) :
    joinWith separator (first :: second :: pieces) =
      first ++ (separator ++ joinWith separator (second :: pieces)) := by
  simp [joinWith]

/-- One separator between two joined texts is enough. -/
theorem joinWith_append_sublist (separator : List Char) (pieces others : List (List Char)) :
    (joinWith separator (pieces ++ others)).Sublist
      (joinWith separator pieces ++ (separator ++ joinWith separator others)) := by
  induction pieces with
  | nil => exact List.sublist_append_right separator _
  | cons first pieces ih =>
    cases pieces with
    | nil =>
      cases others with
      | nil => exact List.sublist_append_left _ _
      | cons second others =>
        have whole : joinWith separator ([first] ++ second :: others) =
            joinWith separator [first] ++ (separator ++ joinWith separator (second :: others)) := by
          rw [List.singleton_append, joinWith_cons_cons, joinWith_singleton]
        exact whole ▸ List.Sublist.refl _
    | cons second pieces =>
      rw [List.cons_append] at ih
      rw [List.cons_append, List.cons_append, joinWith_cons_cons, joinWith_cons_cons,
        List.append_assoc, List.append_assoc]
      exact (ih.append_left separator).append_left first

/-- What is not taken from a separator comes from the pieces. -/
theorem filter_joinWith {p : Char → Bool} (absent : separator.filter p = [])
    (pieces : List (List Char)) :
    (joinWith separator pieces).filter p = pieces.flatten.filter p := by
  induction pieces with
  | nil => rfl
  | cons first pieces ih =>
    cases pieces with
    | nil => rw [joinWith_singleton, List.flatten_singleton]
    | cons second pieces =>
      rw [joinWith_cons_cons, List.filter_append, List.filter_append, absent, List.nil_append, ih,
        List.flatten_cons (l := first), List.filter_append]

theorem of_mem_nonBlankLines (member : line ∈ nonBlankLines s) :
    isBlankText line = false ∧ '\r' ∉ line ∧ '\n' ∉ line := by
  obtain ⟨isPiece, visible⟩ := List.mem_filter.mp member
  have uncut := uncut_of_mem_splitOn isPiece
  exact ⟨by simpa using visible, fun inside => absurd (uncut '\r' inside) (by decide),
    fun inside => absurd (uncut '\n' inside) (by decide)⟩

/-- The lines that are not blank hold nothing but what was joined. -/
theorem flatten_nonBlankLines_sublist (pieces : List (List Char)) :
    (nonBlankLines (joinWith ['\n'] pieces)).flatten.Sublist pieces.flatten := by
  have kept : (nonBlankLines (joinWith ['\n'] pieces)).flatten.Sublist
      (splitOn (fun c => c == '\r' || c == '\n') (joinWith ['\n'] pieces)).flatten :=
    List.filter_sublist.flatten
  rw [flatten_splitOn, filter_joinWith (by decide)] at kept
  exact kept.trans List.filter_sublist

/-- The pieces of a text, trimmed and joined by a character: each of the separators between them is
replaced by that character or deleted. -/
theorem joinWith_trimmed_sublist (separates : Char → Bool) (c : Char) (s : List Char) :
    (joinWith [c] (((splitOn separates s).map trim).filter fun piece => !piece.isEmpty)).Sublist
      (s.map fun x => if separates x then c else x) := by
  induction s using induction_on_pieces separates with
  | uncut s none =>
    have same : (s.map fun x => if separates x then c else x) = s :=
      (List.map_congr_left fun x inside => if_neg (by simp [none x inside])).trans (List.map_id s)
    rw [splitOn_eq_singleton none, same, List.map_singleton, List.filter_cons,
      List.filter_nil]
    split
    · rw [joinWith_singleton]
      exact trim_sublist s
    · exact List.nil_sublist s
  | joined s x t cut first second =>
    rw [splitOn_append_cons cut, List.map_append, List.filter_append, List.map_append,
      List.map_cons, if_pos cut]
    exact (joinWith_append_sublist [c] _ _).trans (first.append (second.cons_cons c))

end DocLint.Text
