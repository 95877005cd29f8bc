import DocLint.Text.Blank
import DocLint.Unicode.WordChar

/-!
# ASCII letters and digits

What holds of the ASCII letters is checked for each of them. Lowering a character gives the
character itself, unless both are ASCII letters. Numbers are written with digits, so that they can
be told from what follows them.
-/
namespace DocLint

variable {x y : Char}

/-- What holds of the characters of a text is checked for each of them. -/
theorem forall_mem_of_all {P : Char → Prop} [DecidablePred P] {s : List Char}
    (checked : s.all (fun c => decide (P c)) = true) : ∀ c ∈ s, P c :=
  fun c inside => of_decide_eq_true (List.all_eq_true.mp checked c inside)

theorem ascii_of_isAsciiWordChar (word : Unicode.isAsciiWordChar x = true) : x.toNat < 128 := by
  simp only [Unicode.isAsciiWordChar, Unicode.isAsciiLetter, Unicode.isAsciiDigit, Bool.or_eq_true,
    Bool.and_eq_true, decide_eq_true_eq, beq_iff_eq, Char.le_def, UInt32.le_iff_toNat_le,
    Char.toNat_val] at word
  rcases word with (((⟨-, le⟩ | ⟨-, le⟩) | ⟨-, le⟩) | rfl)
  · exact Nat.lt_of_le_of_lt le (by decide)
  · exact Nat.lt_of_le_of_lt le (by decide)
  · exact Nat.lt_of_le_of_lt le (by decide)
  · decide

theorem isWordChar_of_isAsciiWordChar (word : Unicode.isAsciiWordChar x = true) :
    Unicode.isWordChar x = true := by
  rw [Unicode.isWordChar_of_ascii (ascii_of_isAsciiWordChar word)]
  exact word

/-- What holds of the letters is checked for each ASCII character. -/
theorem of_isAsciiLetter {P : Char → Prop}
    (checked : ∀ n < 128, Unicode.isAsciiLetter (Char.ofNat n) = true → P (Char.ofNat n))
    (letter : Unicode.isAsciiLetter x = true) : P x := by
  have ascii := ascii_of_isAsciiWordChar (x := x) (by simp [Unicode.isAsciiWordChar, letter])
  rw [← Char.ofNat_toNat x] at letter ⊢
  exact checked x.toNat ascii letter

theorem isBlank_of_isAsciiLetter : Unicode.isAsciiLetter x = true → Text.isBlank x = false :=
  of_isAsciiLetter (P := fun x => Text.isBlank x = false) (by decide)

/-! ### Lower case -/

theorem isAsciiLetter_toLower_of_letter :
    Unicode.isAsciiLetter x = true → Unicode.isAsciiLetter x.toLower = true :=
  of_isAsciiLetter (P := fun x => Unicode.isAsciiLetter x.toLower = true) (by decide)

theorem toLower_of_not_letter (other : Unicode.isAsciiLetter x = false) : x.toLower = x := by
  have small : ¬(x.val ≥ 'A'.val ∧ x.val ≤ 'Z'.val) := by
    rintro ⟨low, high⟩
    simp only [Unicode.isAsciiLetter, Bool.or_eq_false_iff, Bool.and_eq_false_iff,
      decide_eq_false_iff_not] at other
    exact other.2.elim (fun not => not low) (fun not => not high)
  exact dif_neg small

theorem isAsciiLetter_toLower (x : Char) :
    Unicode.isAsciiLetter x.toLower = Unicode.isAsciiLetter x := by
  cases letter : Unicode.isAsciiLetter x with
  | true => exact isAsciiLetter_toLower_of_letter letter
  | false => rw [toLower_of_not_letter letter, letter]

theorem toLower_toLower (x : Char) : x.toLower.toLower = x.toLower := by
  cases letter : Unicode.isAsciiLetter x with
  | true => exact of_isAsciiLetter (P := fun x => x.toLower.toLower = x.toLower) (by decide) letter
  | false => rw [toLower_of_not_letter letter, toLower_of_not_letter letter]

theorem isBlank_toLower (x : Char) : Text.isBlank x.toLower = Text.isBlank x := by
  cases letter : Unicode.isAsciiLetter x with
  | true =>
    rw [isBlank_of_isAsciiLetter letter,
      isBlank_of_isAsciiLetter (isAsciiLetter_toLower_of_letter letter)]
  | false => rw [toLower_of_not_letter letter]

/-- Nothing but a character that is no ASCII letter is lowered to it. -/
theorem toLower_eq_iff (other : Unicode.isAsciiLetter y = false) : x.toLower = y ↔ x = y := by
  constructor
  · rintro rfl
    rw [isAsciiLetter_toLower] at other
    exact (toLower_of_not_letter other).symm
  · rintro rfl
    exact toLower_of_not_letter other

/-! ### Numbers -/

theorem isBlank_of_isDigit (digit : x.isDigit = true) : Text.isBlank x = false := by
  have bounds : 48 ≤ x.toNat ∧ x.toNat ≤ 57 := by
    simpa [Char.isDigit, UInt32.le_iff_toNat_le] using digit
  have checked : ∀ n ≤ 57, 48 ≤ n → Text.isBlank (Char.ofNat n) = false := by decide
  rw [← Char.ofNat_toNat x]
  exact checked x.toNat bounds.2 bounds.1

/-- A number is written with digits only. -/
theorem not_mem_toDigits (other : x.isDigit = false) (n : Nat) : x ∉ Nat.toDigits 10 n := by
  intro inside
  have digit := Nat.isDigit_of_mem_toDigits (by decide) (by decide) inside
  rw [other] at digit
  cases digit

/-- A number can be read off a text that goes on with another character. -/
theorem toDigits_append_cons_inj {m n : Nat} {r r' : List Char} (other : x.isDigit = false)
    (same : Nat.toDigits 10 m ++ x :: r = Nat.toDigits 10 n ++ x :: r') : m = n ∧ r = r' := by
  have absent (n : Nat) : ∀ y ∈ Nat.toDigits 10 n, (y != x) = true := by
    intro y inside
    rw [bne_iff_ne]
    rintro rfl
    exact not_mem_toDigits other n inside
  have number (n : Nat) (r : List Char) :
      (Nat.toDigits 10 n ++ x :: r).takeWhile (· != x) = Nat.toDigits 10 n := by
    rw [List.takeWhile_append_of_pos (absent n), List.takeWhile_cons_of_neg (by simp),
      List.append_nil]
  have digits : Nat.toDigits 10 m = Nat.toDigits 10 n := by
    rw [← number m r, same, number n r']
  have value (n : Nat) : Nat.ofDigitChars 10 (Nat.toDigits 10 n) 0 = n :=
    Nat.ofDigitChars_toDigits (by decide) (by decide)
  refine ⟨by rw [← value m, digits, value n], ?_⟩
  rw [digits] at same
  exact (List.cons.inj (List.append_cancel_left same)).2

end DocLint
