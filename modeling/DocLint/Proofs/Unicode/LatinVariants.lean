import DocLint.Proofs.Text.Ascii
import DocLint.Unicode.CaseFold
import Mathlib.Data.List.Basic

/-!
# Case variants of ASCII letters

Two characters above ASCII are case variants of ASCII letters, the long s and the Kelvin sign, and
both are word characters. This is a property of the data, so that the tables are read in full here.
-/
namespace DocLint.Unicode

variable {x e : Char} {n : Nat} {members : List Nat}

/-! ### Reading a table

A table's text is long, and written in pieces. The characters of a piece are known before it is
read, so that reading takes no decoding.
-/

/-- What is said of a text, some pieces of which are spelled out; the latest is the first of them.
-/
def SpellsOut (P : List Char → Prop) (read : List (List Char)) (pieces : List String) : Prop :=
  P (read.reverse.flatten ++ pieces.flatMap String.toList)

namespace SpellsOut

variable {P : List Char → Prop} {read : List (List Char)} {piece : List Char} {pieces : List String}

theorem next (later : SpellsOut P (piece :: read) pieces) :
    SpellsOut P read (String.ofList piece :: pieces) := by
  simpa [SpellsOut] using later

theorem done (holds : P read.reverse.flatten) : SpellsOut P read [] := by
  simpa [SpellsOut] using holds

theorem of_join (spelled : SpellsOut P [] pieces) : P (String.join pieces).toList := by
  rw [String.toList_join]
  exact spelled

end SpellsOut

def classesIn (text : List Char) : List (List Nat) :=
  (text.foldl ClassReading.step {}).endClass.done.reverse

/-- A class without ASCII, or one of the two that have members on both sides. -/
def isLatinClass (members : List Nat) : Bool :=
  members.all (128 ≤ ·) || members.all fun n => n < 128 || n == 0x17f || n == 0x212a

def ListsLatin (text : List Char) : Prop := (classesIn text).all isLatinClass = true

instance (text : List Char) : Decidable (ListsLatin text) := inferInstanceAs (Decidable (_ = _))

set_option maxRecDepth 4000 in
theorem listsLatin_foldClassText : ListsLatin foldClassText.toList := by
  unfold foldClassText
  refine SpellsOut.of_join ?_
  dsimp only
  repeat refine .next ?_
  exact .done (by decide +kernel)

def ListsChars (cs : List Char) (text : List Char) : Prop :=
  cs.all (RangeTable.mk ((classesIn text).filterMap fun
    | [a] => some (a, a)
    | [a, b] => some (a, b)
    | _ => none).toArray).contains = true

instance (cs text : List Char) : Decidable (ListsChars cs text) :=
  inferInstanceAs (Decidable (_ = true))

theorem contains_of_listsChars {cs : List Char} {text : String} (lists : ListsChars cs text.toList) :
    ∀ c ∈ cs, (RangeTable.ofText text).contains c = true := List.all_eq_true.mp lists

set_option maxRecDepth 4000 in
theorem contains_wordTable : ∀ c ∈ ['\u017f', '\u212a'], wordTable.contains c = true := by
  unfold wordTable
  refine contains_of_listsChars (SpellsOut.of_join ?_)
  dsimp only
  repeat refine .next ?_
  exact .done (by decide +kernel)

/-! ### Looking a class up -/

theorem of_findEntry {α : Type} {entries : Array α} {order : α → Ordering} {budget lo hi : Nat}
    {entry : α} (found : findEntry entries order budget lo hi = some entry) :
    entry ∈ entries ∧ order entry = .eq := by
  induction budget generalizing lo hi with
  | zero => cases found
  | succ budget ih =>
    rw [findEntry] at found
    dsimp only at found
    split at found
    case isFalse => cases found
    case isTrue =>
      split at found
      case h_1 => cases found
      case h_2 other here =>
        split at found
        case h_1 => exact ih found
        case h_2 same =>
          cases found
          exact ⟨Array.mem_of_getElem? here, same⟩
        case h_3 => exact ih found

theorem of_foldClass? (found : foldClass? n = some members) :
    n ∈ members ∧ members ∈ readClasses foldClassText := by
  obtain ⟨⟨m, listed⟩, entry, rfl⟩ := Option.map_eq_some_iff.mp found
  obtain ⟨inside, same⟩ := of_findEntry entry
  obtain rfl : n = m := Nat.compare_eq_eq.mp same
  rw [foldTable, List.mem_toArray, List.mem_mergeSort, List.mem_flatMap] at inside
  obtain ⟨members, read, member⟩ := inside
  obtain ⟨m, isMember, same⟩ := List.mem_map.mp member
  cases same
  exact ⟨isMember, read⟩

/-! ### Word characters -/

theorem lt_of_isAsciiLetter (letter : isAsciiLetter e = true) : e.toNat < 128 :=
  ascii_of_isAsciiWordChar (by simp [isAsciiWordChar, letter])

/-- What is looked up for a character above ASCII has no ASCII letter, but for two characters. -/
theorem latin_of_foldClass? (high : 128 ≤ n) (found : foldClass? n = some members)
    (listed : e ∈ members.map Char.ofNat) (letter : isAsciiLetter e = true) :
    n = 0x17f ∨ n = 0x212a := by
  obtain ⟨own, read⟩ := of_foldClass? found
  have latin : isLatinClass members = true := List.all_eq_true.mp listsLatin_foldClassText _ read
  rw [isLatinClass, Bool.or_eq_true, List.all_eq_true, List.all_eq_true] at latin
  rcases latin with above | both
  · obtain ⟨m, member, rfl⟩ := List.mem_map.mp listed
    have high' : 128 ≤ m := by simpa using above m member
    have low := lt_of_isAsciiLetter letter
    by_cases valid : m.isValidChar
    · rw [Char.ofNat, dif_pos valid] at low
      exact absurd low (Nat.not_lt.mpr high')
    · rw [Char.ofNat, dif_neg valid] at letter
      exact absurd letter (by decide)
  · have here := both n own
    simp only [Bool.or_eq_true, decide_eq_true_eq, beq_iff_eq] at here
    omega

/-- A character that has an ASCII letter among its case variants is a word character. -/
theorem isWordChar_of_mem_caseVariants (listed : e ∈ caseVariants x)
    (letter : isAsciiLetter e = true) : isWordChar x = true := by
  have itself (same : e ∈ [x]) : isWordChar x = true := by
    obtain rfl := List.mem_singleton.mp same
    exact isWordChar_of_isAsciiWordChar (by simp [isAsciiWordChar, letter])
  rw [caseVariants] at listed
  split at listed
  case isTrue low =>
    split at listed
    case isTrue own => exact isWordChar_of_isAsciiWordChar (by simp [isAsciiWordChar, own])
    case isFalse => exact itself listed
  case isFalse high =>
    split at listed
    case h_2 => exact itself listed
    case h_1 members found =>
      have high := Nat.le_of_not_lt high
      have known : x ∈ ['\u017f', '\u212a'] := by
        rw [← Char.ofNat_toNat x]
        rcases latin_of_foldClass? high found listed letter with long | kelvin
        · rw [long]
          decide
        · rw [kelvin]
          decide
      rw [isWordChar, if_neg (Nat.not_lt.mpr high)]
      exact contains_wordTable x known

end DocLint.Unicode
