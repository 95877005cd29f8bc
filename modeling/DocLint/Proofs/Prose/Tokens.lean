import DocLint.Proofs.Prose.Words
import DocLint.Proofs.Text.Ascii
import DocLint.Proofs.Text.Pieces

/-!
# Words between blanks

No word goes over a blank. What stands between two blanks of a text therefore has the same words in
the text as on its own.
-/
namespace DocLint.Prose

open Unicode

variable {c : Char} {u v w text before token after : List Char} {n : Nat} {p : PlacedWord}

theorem IsWord.letter_or_apostrophe (word : IsWord w) (inside : c ∈ w) :
    isAsciiLetter c = true ∨ c = '\'' := by
  induction word with
  | letter letter => exact .inl (List.mem_singleton.mp inside ▸ letter)
  | cons letter _ ih =>
    rcases List.mem_cons.mp inside with rfl | later
    · exact .inl letter
    · exact ih later
  | join letter _ ih =>
    rcases List.mem_cons.mp inside with rfl | later
    · exact .inl letter
    · rcases List.mem_cons.mp later with rfl | later
      · exact .inr rfl
      · exact ih later

theorem IsWord.isBlank_eq_false (word : IsWord w) (inside : c ∈ w) : Text.isBlank c = false := by
  rcases word.letter_or_apostrophe inside with letter | rfl
  · exact isBlank_of_isAsciiLetter letter
  · decide

/-- A text that does not continue a word still does not if a blank is put after it. -/
theorem EndsWord.append_blank (ends : EndsWord u) (blank : ∀ c ∈ v.head?, Text.isBlank c = true) :
    EndsWord (u ++ v) := by
  have other : ∀ c ∈ v.head?, isAsciiLetter c = false ∧ c ≠ '\'' := by
    intro c first
    have blank := blank c first
    constructor
    · cases letter : isAsciiLetter c with
      | false => rfl
      | true => rw [isBlank_of_isAsciiLetter letter] at blank; cases blank
    · rintro rfl
      exact absurd blank (by decide)
  refine ends.append (fun _ => ?_) (fun _ c first => (other c first).1)
  cases v with
  | nil => trivial
  | cons c v => exact ⟨(other c rfl).1, fun same => absurd same (other c rfl).2⟩

/-- A word that overlaps a text between blanks is a word of that text. -/
theorem standsIn_token_iff (front : ∀ c ∈ before.getLast?, Text.isBlank c = true)
    (back : ∀ c ∈ after.head?, Text.isBlank c = true) :
    (p.StandsIn n (before ++ (token ++ after)) ∧ p.start < n + byteLength (before ++ token) ∧
      n + byteLength before < p.stop) ↔ p.StandsIn (n + byteLength before) token := by
  constructor
  · rintro ⟨⟨b, a, whole, start, stop, starts, word, ends⟩, startsBefore, stopsAfter⟩
    obtain ⟨x, rfl, split⟩ : ∃ x, b = before ++ x ∧ token ++ after = x ++ (p.word ++ a) := by
      rcases List.append_eq_append_iff.mp whole with ⟨x, rfl, split⟩ | ⟨x, rfl, split⟩
      · exact ⟨x, rfl, split⟩
      · rcases List.eq_nil_or_concat x with rfl | ⟨x, c, rfl⟩
        · exact ⟨[], by simp, split.symm⟩
        · have blank := front c (by simp)
          rcases List.append_eq_append_iff.mp split with ⟨y, same, -⟩ | ⟨y, same, -⟩
          · rw [same] at stopsAfter
            simp only [stop, byteLength_append] at stopsAfter
            omega
          · rw [word.isBlank_eq_false (c := c) (by simp [same])] at blank
            cases blank
    have inside : ∃ y, token = x ++ (p.word ++ y) ∧ a = y ++ after := by
      rcases List.append_eq_append_iff.mp split with ⟨y, rfl, -⟩ | ⟨y, rfl, later⟩
      · simp only [start, byteLength_append] at startsBefore
        omega
      · rcases List.append_eq_append_iff.mp later with ⟨z, rfl, rfl⟩ | ⟨z, same, rfl⟩
        · exact ⟨z, rfl, rfl⟩
        · cases z with
          | nil => exact ⟨[], by simp [same], rfl⟩
          | cons c z =>
            have blank := back c rfl
            rw [word.isBlank_eq_false (c := c) (by simp [same])] at blank
            cases blank
    obtain ⟨y, rfl, rfl⟩ := inside
    rw [List.reverse_append] at starts
    refine ⟨x, y, rfl, ?_, ?_, starts.of_append, word, ends.of_append⟩
    · rw [start, byteLength_append, Nat.add_assoc]
    · rw [stop, List.append_assoc, byteLength_append, Nat.add_assoc]
  · rintro ⟨b, a, rfl, start, stop, starts, word, ends⟩
    have some := byteLength_pos word.ne_nil
    simp only [byteLength_append] at stop ⊢
    refine ⟨⟨before ++ b, a ++ after, ?_, ?_, ?_, ?_, word, ends.append_blank back⟩, ?_, ?_⟩
    · simp
    · rw [start, byteLength_append, Nat.add_assoc]
    · rw [stop, byteLength_append, byteLength_append]
      omega
    · rw [List.reverse_append]
      exact starts.append_blank (by rwa [List.head?_reverse])
    · omega
    · omega

/-! ### Texts that are words or have none -/

/-- A text with a letter has a word. -/
theorem exists_standsIn (n : Nat) (inside : c ∈ text) (letter : isAsciiLetter c = true) :
    ∃ p : PlacedWord, p.StandsIn n text := by
  rcases Text.exists_first_piece isAsciiLetter text with
    ⟨piece, r, rfl, gap, d, rfl, first, blank⟩ | none
  · obtain ⟨w, r, split, word, ends⟩ := exists_first_word first r
    refine ⟨⟨n + byteLength gap, n + byteLength (gap ++ w), w⟩, gap, r, ?_, rfl, rfl, ?_, word, ends⟩
    · rw [← split]
      simp
    · exact endsWord_of_no_letter (by simpa using blank)
  · rw [none c inside] at letter
    cases letter

/-- A word is the only word of itself. -/
theorem IsWord.eq_of_standsIn (word : IsWord w) (stands : p.StandsIn n w) : p.word = w := by
  have cut : Cut n ([] ++ (w ++ [])) [⟨n + byteLength [], n + byteLength ([] ++ w), w⟩] :=
    .next (by simp) word trivial (.done (by simp))
  rw [List.nil_append, List.append_nil] at cut
  have member := (cut.mem_iff p).mpr stands
  rw [List.mem_singleton.mp member]

/-- Lowering does not change whether a text is a word. -/
theorem isWord_map_toLower : IsWord (w.map Char.toLower) ↔ IsWord w := by
  constructor
  · intro word
    generalize same : w.map Char.toLower = lower at word
    induction word generalizing w with
    | letter letter =>
      obtain ⟨c, rfl, rfl⟩ := List.map_eq_singleton_iff.mp same
      exact .letter (isAsciiLetter_toLower c ▸ letter)
    | cons letter _ ih =>
      obtain ⟨c, w, rfl, rfl, later⟩ := List.map_eq_cons_iff.mp same
      exact .cons (isAsciiLetter_toLower c ▸ letter) (ih later)
    | join letter _ ih =>
      obtain ⟨c, w, rfl, rfl, joined⟩ := List.map_eq_cons_iff.mp same
      obtain ⟨d, w, rfl, apostrophe, later⟩ := List.map_eq_cons_iff.mp joined
      obtain rfl := (toLower_eq_iff (by decide)).mp apostrophe
      exact .join (isAsciiLetter_toLower c ▸ letter) (ih later)
  · intro word
    induction word with
    | letter letter => exact .letter (isAsciiLetter_toLower_of_letter letter)
    | cons letter _ ih => exact .cons (isAsciiLetter_toLower_of_letter letter) ih
    | join letter _ ih => exact .join (isAsciiLetter_toLower_of_letter letter) ih

end DocLint.Prose
