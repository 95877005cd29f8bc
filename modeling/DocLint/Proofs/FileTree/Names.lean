import DocLint.FileTree.Name
import DocLint.Proofs.Text.Decoding

/-!
# Spelled names

Marks lose nothing and cost nothing: a path without marks has the bytes of its text and is shown as
it is, and every sequence of bytes that can be a name is spelled, with marks exactly if it is no
text.
-/
namespace DocLint.Path

def carrier (b : UInt8) : Char := Char.ofNat (0x10ff00 + b.toNat)

/-- The spelling of bytes, of which some belong to the character before. -/
def spellFrom : Nat → List UInt8 → List Char
  | _, [] => []
  | skip + 1, _ :: rest => spellFrom skip rest
  | 0, b :: rest =>
    match Text.utf8Head b rest with
    | .char c length => c :: spellFrom (length - 1) rest
    | _ => mark :: carrier b :: spellFrom 0 rest

def spell (bytes : List UInt8) : String := String.ofList (spellFrom 0 bytes)

theorem carried_carrier {b : UInt8} (high : 0x80 ≤ b.toNat) :
    carriesByte (carrier b) = true ∧ carriedByte (carrier b) = b := by
  have byte := b.toNat_lt
  have value : (carrier b).toNat = 0x10ff00 + b.toNat := Text.val_ofNat (by omega)
  rw [carriesByte, carriedByte, value]
  refine ⟨by rw [decide_eq_true_eq]; omega, ?_⟩
  exact Text.ofNat_eq (by omega)

section
variable {b : UInt8} {c : Char} {chars : List Char}

theorem bytesOf_cons_of_ne (ne : c ≠ mark) :
    bytesOf (c :: chars) = String.utf8EncodeChar c ++ bytesOf chars := by
  cases chars with
  | nil => exact (List.append_nil _).symm
  | cons d rest => rw [bytesOf, if_neg (by simp [ne])]

theorem bytesOf_mark (high : 0x80 ≤ b.toNat) :
    bytesOf (mark :: carrier b :: chars) = b :: bytesOf chars := by
  obtain ⟨carries, carried⟩ := carried_carrier high
  rw [bytesOf, carries, if_pos (by rfl), carried]

theorem hasMark_cons_of_ne (ne : c ≠ mark) : hasMark (c :: chars) = hasMark chars := by
  cases chars with
  | nil => rfl
  | cons d rest => simp [hasMark, ne]

theorem hasMark_mark (high : 0x80 ≤ b.toNat) :
    hasMark (mark :: carrier b :: chars) = true := by
  rw [hasMark, (carried_carrier high).1]
  rfl

end

theorem high_of_utf8Head {b : UInt8} (rest : List UInt8)
    (noChar : ∀ c length, Text.utf8Head b rest = .char c length → False) : 0x80 ≤ b.toNat := by
  by_contra low
  apply noChar (Char.ofNat b.toNat) 1
  rw [Text.utf8Head.eq_def]
  exact if_pos (Nat.lt_of_not_le low)

theorem ne_mark_of_encode {b : UInt8} {c : Char} {more : List UInt8} (ne : b ≠ 0)
    (encoded : String.utf8EncodeChar c = b :: more) : c ≠ mark := by
  rintro rfl
  exact ne (List.cons.inj encoded).1.symm

theorem bytesOf_spellFrom {skip : Nat} {bytes : List UInt8} (noNul : 0 ∉ bytes) :
    bytesOf (spellFrom skip bytes) = bytes.drop skip := by
  fun_induction spellFrom skip bytes with
  | case1 skip => rw [List.drop_nil, bytesOf]
  | case2 skip b rest ih => exact ih (List.not_mem_of_not_mem_cons noNul)
  | case3 b rest c length head ih =>
    obtain ⟨ne, others⟩ := List.ne_and_not_mem_of_not_mem_cons noNul
    obtain ⟨more, left, rfl, rfl, encoded⟩ := Text.encode_of_utf8Head head
    rw [bytesOf_cons_of_ne (ne_mark_of_encode ne.symm encoded), ih others, encoded]
    simp
  | case4 b rest noChar ih =>
    rw [bytesOf_mark (high_of_utf8Head rest noChar), ih (List.not_mem_of_not_mem_cons noNul)]
    rfl

/-- Every name that a file system can hold is spelled. -/
theorem bytes_spell {bytes : List UInt8} (noNul : 0 ∉ bytes) :
    Path.bytes (spell bytes) = bytes := by
  rw [Path.bytes, spell, String.toList_ofList, bytesOf_spellFrom noNul, List.drop_zero]

theorem hasMark_spellFrom (index skip : Nat) (read : List Char) {bytes : List UInt8}
    (noNul : 0 ∉ bytes) : hasMark (spellFrom skip bytes) = false ↔
      ∃ chars, Text.decodeFrom index skip read bytes = .ok chars := by
  fun_induction Text.decodeFrom index skip read bytes with
  | case1 => simp [spellFrom, hasMark]
  | case2 index skip read b rest ih => exact ih (List.not_mem_of_not_mem_cons noNul)
  | case3 index read b rest c length head ih =>
    obtain ⟨ne, others⟩ := List.ne_and_not_mem_of_not_mem_cons noNul
    obtain ⟨more, left, -, -, encoded⟩ := Text.encode_of_utf8Head head
    rw [spellFrom, head]
    dsimp only
    rw [hasMark_cons_of_ne (ne_mark_of_encode ne.symm encoded)]
    exact ih others
  | case4 index read b rest length head =>
    have high : 0x80 ≤ b.toNat := high_of_utf8Head rest (by simp [head])
    simp [spellFrom, head, hasMark_mark high]
  | case5 index read b rest length head =>
    have high : 0x80 ≤ b.toNat := high_of_utf8Head rest (by simp [head])
    simp [spellFrom, head, hasMark_mark high]

/-- The spelling of a name is text exactly if the name is. -/
theorem isText_spell_iff {bytes : List UInt8} (noNul : 0 ∉ bytes) :
    isText (spell bytes) = true ↔ ∃ s, Text.decodeUtf8 bytes = .ok s := by
  have unmarked := hasMark_spellFrom 0 0 [] noNul
  rw [isText, spell, String.toList_ofList, Bool.not_eq_true', unmarked, Text.decodeUtf8]
  constructor
  · rintro ⟨chars, decoded⟩
    exact ⟨_, by rw [decoded]; rfl⟩
  · rintro ⟨s, decoded⟩
    cases result : Text.decodeFrom 0 0 [] bytes with
    | ok chars => exact ⟨chars, rfl⟩
    | error e => rw [result] at decoded; cases decoded

end DocLint.Path
