import DocLint.Text.Utf8
import Mathlib.Data.List.Lex
import Mathlib.Data.String.Basic

/-!
# The order of texts is the order of their bytes

UTF-8 keeps the order: texts are compared by their characters exactly as their encodings are
compared byte by byte. Names that are sorted as texts are therefore sorted as bytes.
-/
namespace DocLint.Text

/-- Reading a byte array from an index on puts what is there behind what was read before. -/
theorem byteArray_loop (bytes : ByteArray) (index : Nat) (read : List UInt8) :
    ByteArray.toList.loop bytes index read = read.reverse ++ bytes.data.toList.drop index := by
  generalize left : bytes.size - index = n
  induction n generalizing index read with
  | zero =>
    have done : ¬ index < bytes.size := by omega
    have nothing : bytes.data.toList.drop index = [] :=
      List.drop_eq_nil_of_le (Nat.le_of_not_lt done)
    rw [ByteArray.toList.loop, if_neg done, nothing, List.append_nil]
  | succ n ih =>
    have more : index < bytes.size := by omega
    have next : bytes.data.toList.drop index =
        bytes.get! index :: bytes.data.toList.drop (index + 1) := by
      have size : index < bytes.data.size := more
      rw [List.drop_eq_getElem_cons (by simpa using size), ByteArray.get!,
        getElem!_pos bytes.data index size, Array.getElem_toList]
    rw [ByteArray.toList.loop, if_pos more, ih _ _ (by omega), next]
    simp

theorem byteArray_toList (bytes : ByteArray) : bytes.toList = bytes.data.toList := by
  rw [ByteArray.toList, byteArray_loop]
  rfl

theorem encodeUtf8_eq_flatMap (s : String) :
    encodeUtf8 s = s.toList.flatMap String.utf8EncodeChar := by
  rw [encodeUtf8, String.toUTF8_eq_toByteArray, ← String.utf8Encode_toList, List.utf8Encode,
    byteArray_toList, List.toList_data_toByteArray]

/-- Bytes are compared like the numbers they are made of. -/
theorem ofNat_cons_lt {m n : Nat} {xs ys : List UInt8} (bound : n < 256) (le : m ≤ n)
    (tie : m = n → xs < ys) : UInt8.ofNat m :: xs < UInt8.ofNat n :: ys := by
  rw [List.cons_lt_cons_iff]
  rcases Nat.lt_or_eq_of_le le with lt | rfl
  · left
    rw [UInt8.lt_iff_toNat_lt, UInt8.toNat_ofNat', UInt8.toNat_ofNat']
    omega
  · exact .inr ⟨rfl, tie rfl⟩

/-- A smaller character has smaller bytes, whatever follows. The first byte of a longer encoding is
greater; encodings of one length are compared digit by digit to the base 64. -/
theorem utf8EncodeChar_append_lt {c d : Char} (lt : c < d) (xs ys : List UInt8) :
    String.utf8EncodeChar c ++ xs < String.utf8EncodeChar d ++ ys := by
  have less : c.val.toNat < d.val.toNat := lt
  have bound : d.val.toNat < 0x110000 := by
    have valid := d.valid
    simp only [UInt32.isValidChar, Nat.isValidChar] at valid
    omega
  fun_cases String.utf8EncodeChar c with
  | case1 v _ =>
    fun_cases String.utf8EncodeChar d with
    | case1 w _ => exact ofNat_cons_lt (by omega) (by omega) (by omega)
    | case2 w _ _ => exact ofNat_cons_lt (by omega) (by omega) (by omega)
    | case3 w _ _ _ => exact ofNat_cons_lt (by omega) (by omega) (by omega)
    | case4 w _ _ _ => exact ofNat_cons_lt (by omega) (by omega) (by omega)
  | case2 v _ _ =>
    fun_cases String.utf8EncodeChar d with
    | case1 w _ => omega
    | case2 w _ _ =>
      exact ofNat_cons_lt (by omega) (by omega) fun _ =>
        ofNat_cons_lt (by omega) (by omega) (by omega)
    | case3 w _ _ _ => exact ofNat_cons_lt (by omega) (by omega) (by omega)
    | case4 w _ _ _ => exact ofNat_cons_lt (by omega) (by omega) (by omega)
  | case3 v _ _ _ =>
    fun_cases String.utf8EncodeChar d with
    | case1 w _ => omega
    | case2 w _ _ => omega
    | case3 w _ _ _ =>
      exact ofNat_cons_lt (by omega) (by omega) fun _ =>
        ofNat_cons_lt (by omega) (by omega) fun _ =>
          ofNat_cons_lt (by omega) (by omega) (by omega)
    | case4 w _ _ _ => exact ofNat_cons_lt (by omega) (by omega) (by omega)
  | case4 v _ _ _ =>
    fun_cases String.utf8EncodeChar d with
    | case1 w _ => omega
    | case2 w _ _ => omega
    | case3 w _ _ _ => omega
    | case4 w _ _ _ =>
      exact ofNat_cons_lt (by omega) (by omega) fun _ =>
        ofNat_cons_lt (by omega) (by omega) fun _ =>
          ofNat_cons_lt (by omega) (by omega) fun _ =>
            ofNat_cons_lt (by omega) (by omega) (by omega)

theorem flatMap_utf8EncodeChar_lt {a b : List Char} (lt : a < b) :
    a.flatMap String.utf8EncodeChar < b.flatMap String.utf8EncodeChar := by
  induction a generalizing b with
  | nil =>
    cases b with
    | nil => cases lt
    | cons d b =>
      cases bytes : String.utf8EncodeChar d with
      | nil => exact absurd bytes String.utf8EncodeChar_ne_nil
      | cons byte more =>
        rw [List.flatMap_nil, List.flatMap_cons, bytes]
        exact List.nil_lt_cons _ _
  | cons c a ih =>
    cases b with
    | nil => cases lt
    | cons d b =>
      rw [List.flatMap_cons, List.flatMap_cons]
      rcases List.cons_lt_cons_iff.mp lt with less | ⟨rfl, rest⟩
      · exact utf8EncodeChar_append_lt less _ _
      · exact List.append_left_lt (ih rest)

theorem encodeUtf8_lt_iff {a b : String} : encodeUtf8 a < encodeUtf8 b ↔ a < b := by
  have mono : ∀ {x y : String}, x < y → encodeUtf8 x < encodeUtf8 y := by
    intro x y lt
    rw [encodeUtf8_eq_flatMap, encodeUtf8_eq_flatMap]
    exact flatMap_utf8EncodeChar_lt lt
  refine ⟨fun lt => ?_, mono⟩
  rcases lt_trichotomy a b with less | rfl | greater
  · exact less
  · exact absurd lt (List.lt_irrefl _)
  · exact absurd lt (List.lt_asymm (mono greater))

end DocLint.Text
