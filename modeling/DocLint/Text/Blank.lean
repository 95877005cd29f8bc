/-!
# Blank characters

A character is blank when Unicode gives it the property White_Space.  Trimming a text removes the
blanks at its ends; a text is blank when nothing is left of it.
-/
namespace DocLint.Text

/-- The characters with the Unicode property White_Space. -/
def isBlank (c : Char) : Bool :=
  let n := c.toNat
  (9 ≤ n && n ≤ 13) || n == 0x20 || n == 0x85 || n == 0xA0 || n == 0x1680 ||
    (0x2000 ≤ n && n ≤ 0x200A) || n == 0x2028 || n == 0x2029 || n == 0x202F || n == 0x205F ||
    n == 0x3000

def trimStart (s : List Char) : List Char :=
  s.dropWhile isBlank

def trimEnd (s : List Char) : List Char :=
  (trimStart s.reverse).reverse

def trim (s : List Char) : List Char :=
  trimEnd (trimStart s)

def isBlankText (s : List Char) : Bool :=
  s.all isBlank

theorem trimStart_eq_nil_iff {s : List Char} : trimStart s = [] ↔ isBlankText s := by
  induction s with
  | nil => simp [trimStart, isBlankText]
  | cons c s ih =>
    cases h : isBlank c with
    | true =>
      have step : trimStart (c :: s) = trimStart s := by simp [trimStart, h]
      rw [step, ih]
      simp [isBlankText, h]
    | false => simp [trimStart, isBlankText, h]

/-- `trim` with a string on both sides. -/
def trimmed (s : String) : String :=
  String.ofList (trim s.toList)

end DocLint.Text
