import DocLint.Text.Lines

/-!
# Cutting texts

How the pieces of a text come from the pieces of its parts: cutting at separators, and cutting
after line ends.
-/
namespace DocLint.Text

variable {separates ends : Char → Bool} {c : Char}

theorem splitOn_append_cons (cut : separates c = true) (xs ys : List Char) :
    splitOn separates (xs ++ c :: ys) = splitOn separates xs ++ splitOn separates ys := by
  induction xs with
  | nil => simp [splitOn, cut]
  | cons x xs ih =>
    rw [List.cons_append, splitOn, splitOn, ih]
    cases separates x with
    | true => rfl
    | false =>
      cases pieces : splitOn separates xs with
      | nil => exact absurd pieces (splitOn_ne_nil separates xs)
      | cons piece more => rfl

theorem splitOn_eq_singleton {s : List Char} (uncut : ∀ c ∈ s, separates c = false) :
    splitOn separates s = [s] := by
  induction s with
  | nil => rfl
  | cons x xs ih =>
    rw [List.forall_mem_cons] at uncut
    simp [splitOn, uncut.1, ih uncut.2]

/-- What holds of texts without a separator, and of two texts with a separator between them if it
holds of both, holds of every text. -/
theorem induction_on_pieces (separates : Char → Bool) {P : List Char → Prop}
    (uncut : ∀ s : List Char, (∀ c ∈ s, separates c = false) → P s)
    (joined : ∀ s c t, separates c = true → P s → P t → P (s ++ c :: t)) (s : List Char) : P s := by
  have from_front : ∀ rest front : List Char, (∀ c ∈ front, separates c = false) →
      P (front ++ rest) := by
    intro rest
    induction rest with
    | nil =>
      intro front none
      simpa using uncut front none
    | cons c rest ih =>
      intro front none
      cases cut : separates c with
      | true => exact joined front c rest cut (uncut front none) (ih [] (by simp))
      | false =>
        have longer := ih (front ++ [c]) fun x inside => by
          rcases List.mem_append.mp inside with earlier | last
          · exact none x earlier
          · rwa [List.mem_singleton.mp last]
        simpa using longer
  exact from_front s [] (by simp)

/-- A character that is no separator is in some piece. -/
theorem exists_mem_splitOn {s : List Char} (inside : c ∈ s) (uncut : separates c = false) :
    ∃ piece ∈ splitOn separates s, c ∈ piece := by
  induction s with
  | nil => cases inside
  | cons x xs ih =>
    rw [splitOn]
    rcases List.mem_cons.mp inside with rfl | later
    · rw [uncut]
      cases splitOn separates xs <;> simp
    · obtain ⟨piece, member, found⟩ := ih later
      cases separates x with
      | true => exact ⟨piece, List.mem_cons_of_mem _ member, found⟩
      | false =>
        cases pieces : splitOn separates xs with
        | nil => exact absurd pieces (splitOn_ne_nil separates xs)
        | cons first more =>
          rw [pieces, List.mem_cons] at member
          rcases member with rfl | member
          · exact ⟨x :: piece, List.mem_cons_self, List.mem_cons_of_mem _ found⟩
          · exact ⟨piece, List.mem_cons_of_mem _ member, found⟩

theorem uncut_of_mem_splitOn {s piece : List Char} (member : piece ∈ splitOn separates s) :
    ∀ c ∈ piece, separates c = false := by
  induction s generalizing piece with
  | nil =>
    rw [splitOn, List.mem_singleton] at member
    simp [member]
  | cons x xs ih =>
    rw [splitOn] at member
    cases cut : separates x with
    | true =>
      rw [if_pos cut, List.mem_cons] at member
      rcases member with rfl | later
      · simp
      · exact ih later
    | false =>
      rw [if_neg (by simp [cut])] at member
      cases pieces : splitOn separates xs with
      | nil => exact absurd pieces (splitOn_ne_nil separates xs)
      | cons first more =>
        rw [pieces] at ih member
        rcases List.mem_cons.mp member with rfl | later
        · intro c inside
          rcases List.mem_cons.mp inside with rfl | inside
          · exact cut
          · exact ih (List.mem_cons_self ..) c inside
        · exact ih (List.mem_cons_of_mem _ later)

theorem splitAfter_append_cons (cut : ends c = true) (xs ys : List Char) :
    splitAfter ends (xs ++ c :: ys) = splitAfter ends (xs ++ [c]) ++ splitAfter ends ys := by
  induction xs with
  | nil => simp [splitAfter, cut]
  | cons x xs ih =>
    rw [List.cons_append, List.cons_append, splitAfter, splitAfter, ih]
    cases ends x with
    | true => rfl
    | false =>
      cases pieces : splitAfter ends (xs ++ [c]) with
      | nil =>
        have whole := flatten_splitAfter ends (xs ++ [c])
        simp [pieces] at whole
      | cons piece more => rfl

/-- What follows a text that ends with a line end starts a piece of its own. -/
theorem splitAfter_append {s : List Char} (closed : ∀ c, s.getLast? = some c → ends c = true)
    (ys : List Char) : splitAfter ends (s ++ ys) = splitAfter ends s ++ splitAfter ends ys := by
  rcases List.eq_nil_or_concat s with rfl | ⟨front, c, rfl⟩
  · rfl
  · rw [List.concat_eq_append] at closed ⊢
    rw [List.append_assoc, List.singleton_append]
    exact splitAfter_append_cons (closed c List.getLast?_concat) front ys

theorem splitAfter_line {xs : List Char} (cut : ends c = true)
    (uncut : ∀ x ∈ xs, ends x = false) : splitAfter ends (xs ++ [c]) = [xs ++ [c]] := by
  induction xs with
  | nil => simp [splitAfter, cut]
  | cons x xs ih =>
    rw [List.forall_mem_cons] at uncut
    rw [List.cons_append, splitAfter, ih uncut.2]
    simp [uncut.1]

end DocLint.Text
