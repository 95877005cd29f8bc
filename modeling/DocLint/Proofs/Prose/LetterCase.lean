import DocLint.Proofs.Prose.Tokens

/-!
# Words and the case of letters

Lowering a text keeps its bytes in their places, and with them the places of its words. Texts that
differ in the case of ASCII letters therefore have words at the same places, with the same letters
up to their case.
-/
namespace DocLint.Prose

open Unicode

variable {n : Nat} {text other w : List Char} {p q : PlacedWord} {words also : List PlacedWord}

theorem utf8Size_toLower (c : Char) : c.toLower.utf8Size = c.utf8Size := by
  cases letter : isAsciiLetter c with
  | true =>
    exact of_isAsciiLetter (P := fun x => x.toLower.utf8Size = x.utf8Size) (by decide) letter
  | false => rw [toLower_of_not_letter letter]

theorem byteLength_map_toLower (s : List Char) : byteLength (s.map Char.toLower) = byteLength s := by
  induction s with
  | nil => rfl
  | cons c s ih => rw [List.map_cons, byteLength_cons, byteLength_cons, ih, utf8Size_toLower]

theorem endsWord_map_toLower : EndsWord (w.map Char.toLower) ↔ EndsWord w := by
  have apostrophe (c : Char) : c.toLower = '\'' ↔ c = '\'' := toLower_eq_iff (by decide)
  match w with
  | [] => exact Iff.rfl
  | [c] => simp [EndsWord, isAsciiLetter_toLower, apostrophe]
  | c :: d :: w => simp [EndsWord, isAsciiLetter_toLower, apostrophe]

/-! ### Placed words -/

def PlacedWord.lower (p : PlacedWord) : PlacedWord :=
  { p with word := p.word.map Char.toLower }

theorem PlacedWord.StandsIn.lower (stands : p.StandsIn n text) :
    p.lower.StandsIn n (text.map Char.toLower) := by
  obtain ⟨before, after, rfl, start, stop, starts, word, ends⟩ := stands
  refine ⟨before.map Char.toLower, after.map Char.toLower, ?_, ?_, ?_, ?_, ?_, ?_⟩
  · rw [List.map_append, List.map_append]
    rfl
  · rw [byteLength_map_toLower]
    exact start
  · show p.stop = n + byteLength (before.map Char.toLower ++ p.word.map Char.toLower)
    rw [← List.map_append, byteLength_map_toLower]
    exact stop
  · rw [← List.map_reverse]
    exact endsWord_map_toLower.mpr starts
  · exact isWord_map_toLower.mpr word
  · exact endsWord_map_toLower.mpr ends

/-- Lowering a text makes no words. -/
theorem exists_of_standsIn_lower (stands : q.StandsIn n (text.map Char.toLower)) :
    ∃ p : PlacedWord, p.StandsIn n text ∧ p.lower = q := by
  obtain ⟨before, after, split, start, stop, starts, word, ends⟩ := stands
  obtain ⟨front, rest, rfl, rfl, later⟩ := List.map_eq_append_iff.mp split
  obtain ⟨middle, back, rfl, spelled, rfl⟩ := List.map_eq_append_iff.mp later
  rw [← List.map_reverse, endsWord_map_toLower] at starts
  rw [← spelled, isWord_map_toLower] at word
  rw [byteLength_map_toLower] at start
  rw [← spelled, ← List.map_append, byteLength_map_toLower] at stop
  refine ⟨⟨q.start, q.stop, middle⟩, ?_, PlacedWord.ext rfl rfl spelled⟩
  exact ⟨front, back, rfl, start, stop, starts, word, endsWord_map_toLower.mp ends⟩

theorem AreWords.lower (areWords : AreWords n text words) :
    AreWords n (text.map Char.toLower) (words.map PlacedWord.lower) where
  mem_iff := by
    intro q
    rw [List.mem_map]
    constructor
    · rintro ⟨p, member, rfl⟩
      exact ((areWords.mem_iff p).mp member).lower
    · intro stands
      obtain ⟨p, original, lowered⟩ := exists_of_standsIn_lower stands
      exact ⟨p, (areWords.mem_iff p).mpr original, lowered⟩
  ordered := List.pairwise_map.mpr areWords.ordered

/-- Texts that differ in the case of letters have the same words up to the case of letters. -/
theorem AreWords.map_lower_eq (areWords : AreWords n text words) (others : AreWords n other also)
    (same : eqIgnoringAsciiCase text other = true) :
    words.map PlacedWord.lower = also.map PlacedWord.lower := by
  have lowered := areWords.lower
  rw [beq_iff_eq.mp same] at lowered
  exact lowered.unique others.lower

end DocLint.Prose
