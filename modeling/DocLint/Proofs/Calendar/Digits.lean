import DocLint.Calendar.Reading
import DocLint.Proofs.Text.Ascii
import Mathlib.Data.List.Induction

/-!
# Numbers of fixed width

A number that is padded with zeros is read back at the start of a text, whatever follows.
-/
namespace DocLint.Calendar

open Decimal Instant

theorem digitValue?_digitChar {d : Nat} (small : d < 10) : digitValue? d.digitChar = some d := by
  have all : ∀ d < 10, digitValue? (Nat.digitChar d) = some d := by decide
  exact all d small

theorem valueOfDigits_concat {d : Nat} (small : d < 10) (digits : List Char) :
    valueOfDigits (digits ++ [d.digitChar]) = valueOfDigits digits * 10 + d := by
  rw [valueOfDigits, List.foldl_append, List.foldl_cons, List.foldl_nil,
    digitValue?_digitChar small, valueOfDigits]

theorem valueOfDigits_zeros_append (k : Nat) (digits : List Char) :
    valueOfDigits (List.replicate k '0' ++ digits) = valueOfDigits digits := by
  induction k with
  | zero => rfl
  | succ k ih => exact ih

theorem valueOfDigits_toDigits (n : Nat) : valueOfDigits (Nat.toDigits 10 n) = n := by
  induction n using Nat.strongRecOn with
  | ind n ih =>
    by_cases small : n < 10
    · rw [Nat.toDigits_of_lt_base small, ← List.nil_append [n.digitChar],
        valueOfDigits_concat small]
      exact Nat.zero_add n
    · have last : n % 10 < 10 := Nat.mod_lt n (by decide)
      rw [Nat.toDigits_of_base_le (by decide) (Nat.le_of_not_lt small), valueOfDigits_concat last,
        ih (n / 10) (by omega)]
      omega

theorem digitValue?_lt {c : Char} {d : Nat} (digit : digitValue? c = some d) : d < 10 := by
  rw [digitValue?] at digit
  split at digit
  case isFalse => cases digit
  case isTrue inside =>
    have high : c.toNat ≤ 57 := by
      simp only [Bool.and_eq_true, decide_eq_true_eq, Char.le_def, UInt32.le_iff_toNat_le] at inside
      exact inside.2
    obtain rfl := Option.some.inj digit
    omega

/-- A numeral is smaller than the power of ten for its length. -/
theorem valueOfDigits_lt (digits : List Char) : valueOfDigits digits < Nat.pow 10 digits.length := by
  induction digits using List.reverseRecOn with
  | nil => decide
  | append_singleton digits c ih =>
    have power : Nat.pow 10 (digits.length + 1) = Nat.pow 10 digits.length * 10 := rfl
    rw [valueOfDigits, List.foldl_append, ← valueOfDigits, List.foldl_cons, List.foldl_nil,
      List.length_append, List.length_singleton, power]
    cases value : digitValue? c with
    | none =>
      dsimp only
      omega
    | some d =>
      have small := digitValue?_lt value
      dsimp only
      omega

/-- Digits of a number in a fixed width. -/
structure AreDigits (width n : Nat) (digits : List Char) : Prop where
  length : digits.length = width
  isDigit : ∀ c ∈ digits, c.isDigit = true
  value : valueOfDigits digits = n

variable {width least n : Nat} {digits : List Char}

theorem areDigits_padded (some : 0 < width) (fits : n < Nat.pow 10 width) :
    AreDigits width n (padded width n).toList := by
  have short : (Nat.toDigits 10 n).length ≤ width :=
    (Nat.length_toDigits_le_iff (by decide) some).mpr fits
  have letters : (padded width n).toList =
      List.replicate (width - (Nat.toDigits 10 n).length) '0' ++ Nat.toDigits 10 n := by
    rw [padded, Nat.toString_eq_ofList_toDigits]
    simp
  rw [letters]
  refine ⟨?_, fun c inside => ?_, ?_⟩
  · rw [List.length_append, List.length_replicate]
    omega
  · rcases List.mem_append.mp inside with zero | digit
    · rw [List.eq_of_mem_replicate zero]
      rfl
    · exact Nat.isDigit_of_mem_toDigits (by decide) (by decide) digit
  · rw [valueOfDigits_zeros_append, valueOfDigits_toDigits]

theorem areDigits_two (fits : n < 100) : AreDigits 2 n (padded 2 n).toList :=
  areDigits_padded (by decide) fits

theorem areDigits_four (fits : n < 10000) : AreDigits 4 n (padded 4 n).toList :=
  areDigits_padded (by decide) fits

theorem takeWhile_digits_append (areDigits : AreDigits width n digits) (rest : List Char) :
    (digits ++ rest).takeWhile Char.isDigit = digits ++ rest.takeWhile Char.isDigit :=
  List.takeWhile_append_of_pos areDigits.isDigit

/-- At most so many digits are read as there are. -/
theorem number?_digits (areDigits : AreDigits width n digits) (enough : least ≤ width)
    (rest : List Char) : number? least (some width) (digits ++ rest) = some (n, rest) := by
  have taken : (digits ++ rest.takeWhile Char.isDigit).take width = digits :=
    List.take_left' areDigits.length
  rw [number?]
  simp only [takeWhile_digits_append areDigits, taken, areDigits.length, areDigits.value]
  rw [if_neg (Nat.not_lt.mpr enough), List.drop_left' areDigits.length]

theorem isDigit_of_digits_append {c : Char} {rest others : List Char}
    (areDigits : AreDigits width n digits) (some : 0 < width)
    (same : digits ++ rest = c :: others) : c.isDigit = true := by
  cases digits with
  | nil => exact absurd areDigits.length (Nat.ne_of_lt some)
  | cons d digits =>
    obtain ⟨rfl, -⟩ := List.cons.inj same
    exact areDigits.isDigit d List.mem_cons_self

/-- There are no blanks before a digit. -/
theorem trimStart_digits (areDigits : AreDigits width n digits) (some : 0 < width)
    (rest : List Char) : Text.trimStart (digits ++ rest) = digits ++ rest := by
  cases same : digits ++ rest with
  | nil => rfl
  | cons c others =>
    have solid := isBlank_of_isDigit (isDigit_of_digits_append areDigits some same)
    exact List.dropWhile_cons_of_neg (by rw [solid]; exact Bool.false_ne_true)

theorem looseNumber?_digits (areDigits : AreDigits width n digits) (some : 0 < width)
    (rest : List Char) : looseNumber? width (digits ++ rest) = Option.some (n, rest) := by
  rw [looseNumber?, trimStart_digits areDigits some, number?_digits areDigits some]

theorem looseYear?_digits (areDigits : AreDigits 4 n digits) (rest : List Char) :
    looseYear? (digits ++ rest) = some ((n : Int), rest) := by
  rw [looseYear?, trimStart_digits areDigits (by decide)]
  split
  case h_1 same => cases isDigit_of_digits_append areDigits (by decide) same
  case h_2 same => cases isDigit_of_digits_append areDigits (by decide) same
  case h_3 =>
    rw [number?_digits areDigits (by decide)]
    rfl

end DocLint.Calendar
