import DocLint.Proofs.Text.ByteOrder

/-!
# Decoding what was encoded

The bytes of a text are read back as that text. Every character stands at the front of its own
bytes, whatever follows them, and what is read off the front of some bytes was encoded there.
-/
namespace DocLint.Text

variable {n v : Nat} {b : UInt8} {c : Char} {rest : List UInt8}

theorem toNat_ofNat_of_lt (small : n < 256) : (UInt8.ofNat n).toNat = n := by
  rw [UInt8.toNat_ofNat']
  exact Nat.mod_eq_of_lt small

theorem within_ofNat {low high : Nat} (small : n < 256) (above : low ≤ n) (below : n ≤ high) :
    within low high (UInt8.ofNat n) = true := by
  simp [within, toNat_ofNat_of_lt small, above, below]

theorem isContinuation_ofNat (v : Nat) : isContinuation (UInt8.ofNat (v % 64 + 128)) = true :=
  within_ofNat (by omega) (by omega) (by omega)

theorem payload_ofNat (v : Nat) : payload (UInt8.ofNat (v % 64 + 128)) = v % 64 := by
  rw [payload, toNat_ofNat_of_lt (by omega)]
  omega

theorem ofNat_val (c : Char) : Char.ofNat c.val.toNat = c := Char.ofNat_toNat c

/-- Of the code points of three bytes, the short ones and the surrogates are left out. -/
theorem secondByteOk_of_three (long : 0x7ff < v) (short : v ≤ 0xffff)
    (valid : v < 0xd800 ∨ 0xdfff < v) :
    secondByteOk (v / 4096 % 16 + 224) (UInt8.ofNat (v / 64 % 64 + 128)) = true := by
  rw [secondByteOk]
  split
  case isTrue lowest =>
    rw [beq_iff_eq] at lowest
    exact within_ofNat (by omega) (by omega) (by omega)
  case isFalse =>
    split
    case isTrue surrogates =>
      rw [beq_iff_eq] at surrogates
      exact within_ofNat (by omega) (by omega) (by omega)
    case isFalse =>
      rw [if_neg (by rw [beq_iff_eq]; omega), if_neg (by rw [beq_iff_eq]; omega)]
      exact isContinuation_ofNat _

/-- Of the code points of four bytes, the short ones and those beyond the last one are left out. -/
theorem secondByteOk_of_four (long : 0xffff < v) (valid : v < 0x110000) :
    secondByteOk (v / 262144 % 8 + 240) (UInt8.ofNat (v / 4096 % 64 + 128)) = true := by
  rw [secondByteOk, if_neg (by rw [beq_iff_eq]; omega), if_neg (by rw [beq_iff_eq]; omega)]
  split
  case isTrue lowest =>
    rw [beq_iff_eq] at lowest
    exact within_ofNat (by omega) (by omega) (by omega)
  case isFalse =>
    split
    case isTrue highest =>
      rw [beq_iff_eq] at highest
      exact within_ofNat (by omega) (by omega) (by omega)
    case isFalse => exact isContinuation_ofNat _

/-- A character is read off the front of its bytes. -/
theorem utf8Head_encode (c : Char) (rest : List UInt8) :
    ∃ b more, String.utf8EncodeChar c = b :: more ∧
      utf8Head b (more ++ rest) = .char c (more.length + 1) := by
  have valid : c.val.toNat < 0xd800 ∨ 0xdfff < c.val.toNat ∧ c.val.toNat < 0x110000 := c.valid
  have itself := ofNat_val c
  fun_cases String.utf8EncodeChar c with
  | case1 v one =>
    refine ⟨_, _, rfl, ?_⟩
    unfold utf8Head
    rw [toNat_ofNat_of_lt (by omega)]
    dsimp only
    rw [if_pos (by omega), itself]
    rfl
  | case2 v more two =>
    refine ⟨_, _, rfl, ?_⟩
    have value : (v / 64 % 32 + 192) % 32 * 64 + v % 64 = v := by omega
    unfold utf8Head
    rw [toNat_ofNat_of_lt (by omega)]
    dsimp only [List.cons_append]
    rw [if_neg (by omega), if_pos (by simp; omega), if_pos (isContinuation_ofNat v), payload_ofNat,
      value, itself]
    rfl
  | case3 v more more' three =>
    refine ⟨_, _, rfl, ?_⟩
    have value : ((v / 4096 % 16 + 224) % 16 * 64 + v / 64 % 64) * 64 + v % 64 = v := by omega
    have second := secondByteOk_of_three (v := v) (by omega) three (by omega)
    unfold utf8Head
    rw [toNat_ofNat_of_lt (by omega)]
    dsimp only [List.cons_append]
    rw [if_neg (by omega), if_neg (by simp), if_pos (by simp; omega), second,
      if_neg (by simp), if_pos (isContinuation_ofNat v), payload_ofNat, payload_ofNat, value,
      itself]
    rfl
  | case4 v more more' four =>
    refine ⟨_, _, rfl, ?_⟩
    have value : (((v / 262144 % 8 + 240) % 8 * 64 + v / 4096 % 64) * 64 + v / 64 % 64) * 64 +
        v % 64 = v := by omega
    have second := secondByteOk_of_four (v := v) (by omega) (by omega)
    unfold utf8Head
    rw [toNat_ofNat_of_lt (by omega)]
    dsimp only [List.cons_append]
    rw [if_neg (by omega), if_neg (by simp), if_neg (by simp), if_pos (by simp; omega),
      second, if_neg (by simp), isContinuation_ofNat, if_neg (by simp),
      if_pos (isContinuation_ofNat v), payload_ofNat, payload_ofNat, payload_ofNat, value, itself]
    rfl

/-! ### What stands at the front -/

theorem ofNat_eq (same : n = b.toNat) : UInt8.ofNat n = b := by
  rw [same, UInt8.ofNat_toNat]

theorem val_ofNat (valid : v < 0xd800 ∨ 0xdfff < v ∧ v < 0x110000) :
    (Char.ofNat v).val.toNat = v := by
  have isValid : v.isValidChar := valid
  rw [Char.ofNat, dif_pos isValid]
  rfl

theorem within_iff {low high : Nat} :
    within low high b = true ↔ low ≤ b.toNat ∧ b.toNat ≤ high := by
  simp [within]

theorem toNat_of_isContinuation (continues : isContinuation b = true) :
    b.toNat = payload b + 128 ∧ payload b < 64 := by
  obtain ⟨least, most⟩ := within_iff.mp continues
  rw [payload]
  omega

/-- What the range of a second byte says of its payload. -/
theorem toNat_of_secondByteOk {first : Nat} (ok : secondByteOk first b = true) :
    b.toNat = payload b + 128 ∧ payload b < 64 ∧ (first = 0xe0 → 32 ≤ payload b) ∧
      (first = 0xed → payload b < 32) ∧ (first = 0xf0 → 16 ≤ payload b) ∧
      (first = 0xf4 → payload b < 16) := by
  rw [payload]
  revert ok
  fun_cases secondByteOk first b <;> intro ok <;> obtain ⟨least, most⟩ := within_iff.mp ok <;>
    simp_all <;> omega

/-- The bytes of a character that is read off the front stand there. -/
theorem encode_of_utf8Head {length : Nat} (head : utf8Head b rest = .char c length) :
    ∃ more left, rest = more ++ left ∧ length = more.length + 1 ∧
      String.utf8EncodeChar c = b :: more := by
  have byte := b.toNat_lt
  revert head
  fun_cases utf8Head b rest with
  | case1 _ n one =>
    rintro ⟨⟩
    refine ⟨[], rest, rfl, rfl, ?_⟩
    have value := val_ofNat (v := n) (by omega)
    simp only [String.utf8EncodeChar, value]
    rw [if_pos (by omega), ofNat_eq rfl]
  | case3 n more two d left continues =>
    rintro ⟨⟩
    refine ⟨[d], left, rfl, rfl, ?_⟩
    rw [Bool.and_eq_true, decide_eq_true_eq, decide_eq_true_eq] at two
    have digit := toNat_of_isContinuation continues
    have value := val_ofNat (v := n % 32 * 64 + payload d) (by omega)
    simp only [String.utf8EncodeChar, value]
    rw [if_neg (by omega), if_pos (by omega), ofNat_eq (b := b) (by omega),
      ofNat_eq (b := d) (by omega)]
  | case8 n more more' three d ok e left continues =>
    rintro ⟨⟩
    refine ⟨[d, e], left, rfl, rfl, ?_⟩
    rw [Bool.and_eq_true, decide_eq_true_eq, decide_eq_true_eq] at three
    have first := toNat_of_secondByteOk (by simpa using ok)
    have second := toNat_of_isContinuation continues
    have value := val_ofNat (v := (n % 16 * 64 + payload d) * 64 + payload e) (by omega)
    simp only [String.utf8EncodeChar, value]
    rw [if_neg (by omega), if_neg (by omega), if_pos (by omega), ofNat_eq (b := b) (by omega),
      ofNat_eq (b := d) (by omega), ofNat_eq (b := e) (by omega)]
  | case15 n more more' more'' four d ok e continues f left continues' =>
    rintro ⟨⟩
    refine ⟨[d, e, f], left, rfl, rfl, ?_⟩
    rw [Bool.and_eq_true, decide_eq_true_eq, decide_eq_true_eq] at four
    have first := toNat_of_secondByteOk (by simpa using ok)
    have second := toNat_of_isContinuation (by simpa using continues)
    have third := toNat_of_isContinuation continues'
    have value := val_ofNat
      (v := ((n % 8 * 64 + payload d) * 64 + payload e) * 64 + payload f) (by omega)
    simp only [String.utf8EncodeChar, value]
    rw [if_neg (by omega), if_neg (by omega), if_neg (by omega), ofNat_eq (b := b) (by omega),
      ofNat_eq (b := d) (by omega), ofNat_eq (b := e) (by omega), ofNat_eq (b := f) (by omega)]
  | _ => rintro ⟨⟩

/-! ### Whole texts -/

/-- The bytes of a character that was read are passed over. -/
theorem decodeFrom_skip (more : List UInt8) (index : Nat) (read : List Char) :
    decodeFrom index more.length read (more ++ rest) =
      decodeFrom (index + more.length) 0 read rest := by
  induction more generalizing index with
  | nil => rfl
  | cons b more ih =>
    rw [List.length_cons, List.cons_append, decodeFrom, ih]
    congr 1
    omega

theorem decodeFrom_encode (s : List Char) (index : Nat) (read : List Char) :
    decodeFrom index 0 read (s.flatMap String.utf8EncodeChar) = .ok (read.reverse ++ s) := by
  induction s generalizing index read with
  | nil => rw [List.flatMap_nil, decodeFrom, List.append_nil]
  | cons c s ih =>
    obtain ⟨b, more, bytes, head⟩ := utf8Head_encode c (s.flatMap String.utf8EncodeChar)
    rw [List.flatMap_cons, bytes, List.cons_append, decodeFrom, head]
    dsimp only
    rw [Nat.add_sub_cancel, decodeFrom_skip, ih, List.reverse_cons, List.append_assoc,
      List.singleton_append]

theorem decodeUtf8_encodeUtf8 (s : String) : decodeUtf8 (encodeUtf8 s) = .ok s := by
  rw [decodeUtf8, encodeUtf8_eq_flatMap, decodeFrom_encode]
  simp [Except.map]

end DocLint.Text
