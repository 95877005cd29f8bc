import DocLint.Text.Lines

/-!
# Trimming

Blanks that are put around a text make no difference once it is trimmed, and neither does the line
break that is removed from a line.
-/
namespace DocLint.Text

variable {s blanks : List Char}

theorem trimStart_blanks_append (blank : isBlankText blanks = true) (s : List Char) :
    trimStart (blanks ++ s) = trimStart s :=
  List.dropWhile_append_of_pos fun c inside => List.all_eq_true.mp blank c inside

theorem trimEnd_append_blanks (s : List Char) (blank : isBlankText blanks = true) :
    trimEnd (s ++ blanks) = trimEnd s := by
  have reversed : isBlankText blanks.reverse = true := by
    rw [isBlankText, List.all_reverse]
    exact blank
  rw [trimEnd, trimEnd, List.reverse_append, trimStart_blanks_append reversed]

theorem trim_blanks_append (blank : isBlankText blanks = true) (s : List Char) :
    trim (blanks ++ s) = trim s := by
  rw [trim, trim, trimStart_blanks_append blank]

theorem trim_append_blanks (s : List Char) (blank : isBlankText blanks = true) :
    trim (s ++ blanks) = trim s := by
  rw [trim, trim, trimStart, List.dropWhile_append]
  split
  case isTrue nothing =>
    have nothing : trimStart s = [] := List.isEmpty_iff.mp nothing
    have others : trimStart blanks = [] := trimStart_eq_nil_iff.mpr blank
    rw [nothing, ← trimStart, others]
  case isFalse => exact trimEnd_append_blanks _ blank

/-- A text that ends visibly has nothing to trim there. -/
theorem trimEnd_eq_self (visible : ∀ x ∈ s.getLast?, isBlank x = false) : trimEnd s = s := by
  rcases List.eq_nil_or_concat s with rfl | ⟨front, x, rfl⟩
  · rfl
  · simp [trimEnd, trimStart, visible x (by simp)]

/-- A text that starts visibly has nothing to trim there. -/
theorem trimStart_eq_self (visible : ∀ x ∈ s.head?, isBlank x = false) : trimStart s = s := by
  cases s with
  | nil => rfl
  | cons x s => exact List.dropWhile_cons_of_neg (by simp [visible x rfl])

/-- Both ends of a text are visible, if it has any. -/
def EndsVisibly (s : List Char) : Prop :=
  (∀ x ∈ s.head?, isBlank x = false) ∧ ∀ x ∈ s.getLast?, isBlank x = false

theorem endsVisibly_trim (s : List Char) : EndsVisibly (trim s) := by
  have start (s : List Char) : ∀ x ∈ (trimStart s).head?, isBlank x = false := by
    intro x first
    have stops := List.head?_dropWhile_not isBlank s
    rw [← trimStart, Option.mem_def.mp first] at stops
    exact stops
  constructor
  · intro x first
    obtain ⟨blanks, whole⟩ : trimEnd (trimStart s) <+: trimStart s := by
      rw [trimEnd, ← List.reverse_suffix, List.reverse_reverse]
      exact List.dropWhile_suffix _
    refine start s x ?_
    rw [← whole, List.head?_append, ← trim, Option.mem_def.mp first]
    rfl
  · intro x last
    rw [trim, trimEnd, List.getLast?_reverse] at last
    exact start _ x last

/-- Nothing is trimmed exactly where both ends are visible. -/
theorem trim_eq_self_iff : trim s = s ↔ EndsVisibly s := by
  constructor
  · intro same
    rw [← same]
    exact endsVisibly_trim s
  · rintro ⟨start, stop⟩
    rw [trim, trimStart_eq_self start, trimEnd_eq_self stop]

/-- A text without blanks is trimmed already. -/
theorem trim_eq_self (solid : ∀ c ∈ s, isBlank c = false) : trim s = s :=
  trim_eq_self_iff.mpr ⟨fun c first => solid c (List.mem_of_head? first),
    fun c last => solid c (List.mem_of_getLast? last)⟩

/-- What is removed from the end of a line is its line break. -/
theorem exists_eq_chomp_append (line : List Char) :
    ∃ lineBreak, line = chomp line ++ lineBreak ∧ isBlankText lineBreak = true := by
  rw [chomp]
  split
  case h_1 rest eq =>
    rw [List.reverse_eq_iff] at eq
    exact ⟨['\r', '\n'], by simp [eq], by decide⟩
  case h_2 rest _ eq =>
    rw [List.reverse_eq_iff] at eq
    exact ⟨['\n'], by simp [eq], by decide⟩
  case h_3 => exact ⟨[], (List.append_nil line).symm, rfl⟩

theorem trim_chomp (line : List Char) : trim (chomp line) = trim line := by
  obtain ⟨lineBreak, eq, blank⟩ := exists_eq_chomp_append line
  calc trim (chomp line) = trim (chomp line ++ lineBreak) := (trim_append_blanks _ blank).symm
    _ = trim line := by rw [← eq]

end DocLint.Text
