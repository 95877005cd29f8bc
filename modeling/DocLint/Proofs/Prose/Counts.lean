import DocLint.Proofs.Prose.CountedWords
import DocLint.Proofs.Text.Splitting
import Mathlib.Algebra.BigOperators.Group.List.Basic
import Mathlib.Algebra.Order.BigOperators.Group.List
import Mathlib.Algebra.Order.Ring.Nat

/-!
# The counts of a text

Every counted sentence has a word of its own, every word has a syllable, and every syllable a letter
or digit of its own; so the counts of a text with words are in this order, and none of them is zero.
Counts add up where a sentence ends: they are those of the pieces between sentence ends, in whatever
order these stand and in whatever case they are written.
-/
namespace DocLint.Prose

open Unicode

variable {c : Char} {text other w a b : List Char}

/-! ### Sentences -/

theorem endsSentence_iff : endsSentence c = true ↔ c ∈ ['.', '!', '?', '\n'] := by
  simp [endsSentence, or_assoc]

/-- No word goes over the end of a sentence. -/
theorem wordsOf_append_end (ends : endsSentence c = true) (a b : List Char) :
    wordsOf (a ++ c :: b) = wordsOf a ++ wordsOf b := by
  have apart : ∀ c ∈ ['.', '!', '?', '\n'], isAlphanumeric c = false ∧ c ≠ '\'' :=
    forall_mem_of_all (by decide)
  obtain ⟨other, ne⟩ := apart c (endsSentence_iff.mp ends)
  exact wordsOf_append_cons other ne a b

theorem sentenceCount_append_end (ends : endsSentence c = true) (a b : List Char) :
    sentenceCount (a ++ c :: b) = sentenceCount a + sentenceCount b := by
  rw [sentenceCount, Text.splitOn_append_cons ends, List.filter_append, List.length_append]
  rfl

theorem sentenceCount_of_uncut (uncut : ∀ c ∈ text, endsSentence c = false) :
    sentenceCount text = if wordsOf text = [] then 0 else 1 := by
  have words := found_countedWord_iff text
  rw [sentenceCount, Text.splitOn_eq_singleton uncut]
  by_cases none : wordsOf text = []
  · have missing : Pattern.found countedWord text = false := by simpa [none] using words
    simp [none, missing]
  · have found : Pattern.found countedWord text = true := words.mpr none
    simp [none, found]

/-- Every counted sentence has a word of its own, and a text with words has such a sentence. -/
theorem sentenceCount_bounds (text : List Char) :
    sentenceCount text ≤ (wordsOf text).length ∧ (wordsOf text ≠ [] → 1 ≤ sentenceCount text) := by
  induction text using Text.induction_on_pieces endsSentence with
  | uncut s none =>
    rw [sentenceCount_of_uncut none]
    by_cases empty : wordsOf s = []
    · simp [empty]
    · have long := List.length_pos_iff.mpr empty
      simp only [empty, if_false]
      omega
  | joined s c t ends first second =>
    rw [sentenceCount_append_end ends, wordsOf_append_end ends, List.length_append]
    refine ⟨by omega, fun some => ?_⟩
    by_cases empty : wordsOf s = []
    · rw [empty, List.nil_append] at some
      have := second.2 some
      omega
    · have := first.2 empty
      omega

theorem endsSentence_toLower (c : Char) : endsSentence c.toLower = endsSentence c := by
  have same (y : Char) (other : isAsciiLetter y = false) : (c.toLower == y) = (c == y) := by
    rw [Bool.eq_iff_iff, beq_iff_eq, beq_iff_eq]
    exact toLower_eq_iff other
  simp only [endsSentence, same '.' (by decide), same '!' (by decide), same '?' (by decide),
    same '\n' (by decide)]

theorem sentenceCount_map_toLower (text : List Char) :
    sentenceCount (text.map Char.toLower) = sentenceCount text := by
  induction text using Text.induction_on_pieces endsSentence with
  | uncut s none =>
    have lower : ∀ c ∈ s.map Char.toLower, endsSentence c = false := by
      intro x member
      obtain ⟨c, inside, rfl⟩ := List.mem_map.mp member
      rw [endsSentence_toLower]
      exact none c inside
    rw [sentenceCount_of_uncut lower, sentenceCount_of_uncut none, wordsOf_map_toLower]
    simp only [List.map_eq_nil_iff]
  | joined s c t ends first second =>
    have lower : endsSentence c.toLower = true := (endsSentence_toLower c).trans ends
    rw [List.map_append, List.map_cons, sentenceCount_append_end lower, first, second,
      sentenceCount_append_end ends]

/-! ### Syllables -/

theorem isAlphanumeric_of_isVowel (vowel : isVowel c = true) : isAlphanumeric c = true := by
  simp only [isVowel, Bool.or_eq_true, beq_iff_eq] at vowel
  rcases vowel with ((((rfl | rfl) | rfl) | rfl) | rfl) | rfl <;> decide

/-- Every group of vowels has a vowel of its own. -/
theorem vowelGroups_le (inside : Bool) (w : List Char) :
    vowelGroups inside w ≤ w.countP isVowel := by
  induction w generalizing inside with
  | nil => exact Nat.zero_le _
  | cons c w ih =>
    rw [vowelGroups, List.countP_cons]
    by_cases vowel : isVowel c = true
    · have rest := ih true
      simp only [vowel, if_true]
      split <;> omega
    · have rest := ih false
      simp only [vowel, Bool.false_eq_true, if_false]
      omega

theorem syllables_pos (w : List Char) : 1 ≤ syllables w := by
  rw [syllables]
  dsimp only
  split
  · exact Nat.le_refl 1
  · exact Nat.le_max_right _ 1

theorem countP_isAlphanumeric_map_toLower (w : List Char) :
    (w.map Char.toLower).countP isAlphanumeric = w.countP isAlphanumeric := by
  rw [List.countP_map]
  exact List.countP_congr fun c _ => by simp [isAlphanumeric_toLower]

/-- A word does not have more syllables than letters and digits. -/
theorem syllables_le (some : ∃ c ∈ w, isAlphanumeric c = true) :
    syllables w ≤ w.countP isAlphanumeric := by
  have positive : 1 ≤ w.countP isAlphanumeric := List.countP_pos_iff.mpr some
  have groups : vowelGroups false (w.map Char.toLower) ≤ w.countP isAlphanumeric := calc
    vowelGroups false (w.map Char.toLower)
      ≤ (w.map Char.toLower).countP isVowel := vowelGroups_le false _
    _ ≤ (w.map Char.toLower).countP isAlphanumeric :=
      List.countP_mono_left fun _ _ vowel => isAlphanumeric_of_isVowel vowel
    _ = w.countP isAlphanumeric := countP_isAlphanumeric_map_toLower w
  rw [syllables]
  dsimp only
  split
  · exact positive
  · apply Nat.max_le.mpr
    refine ⟨?_, positive⟩
    split <;> omega

theorem syllables_map_toLower (w : List Char) : syllables (w.map Char.toLower) = syllables w := by
  have lower : (w.map Char.toLower).map Char.toLower = w.map Char.toLower := by
    rw [List.map_map]
    exact List.map_congr_left fun c _ => toLower_toLower c
  rw [syllables, syllables, lower]

/-! ### The order of the counts -/

theorem total_eq_sum (counts : List Nat) : total counts = counts.sum := rfl

/-- The counts of a text, where the two special cases make no difference. -/
theorem Counts.of_eq (text : List Char) :
    Counts.of text =
      { words := (wordsOf text).length
        sentences := sentenceCount text
        syllables := ((wordsOf text).map Prose.syllables).sum
        letters := ((wordsOf text).map fun w => w.countP isAlphanumeric).sum } := by
  obtain ⟨most, least⟩ := sentenceCount_bounds text
  rw [Counts.of]
  by_cases empty : wordsOf text = []
  · rw [empty, List.length_nil] at most
    simp [empty, Nat.le_zero.mp most]
  · have enough := least empty
    simp [empty, total_eq_sum, enough]

/-- The words have syllables, and letters or digits for them. -/
theorem Counts.of_ordered (text : List Char) :
    (Counts.of text).sentences ≤ (Counts.of text).words ∧
      (Counts.of text).words ≤ (Counts.of text).syllables ∧
      (Counts.of text).syllables ≤ (Counts.of text).letters := by
  rw [Counts.of_eq]
  refine ⟨(sentenceCount_bounds text).1, ?_, ?_⟩
  · have each : ∀ n ∈ (wordsOf text).map Prose.syllables, 1 ≤ n := by
      intro n member
      obtain ⟨w, -, rfl⟩ := List.mem_map.mp member
      exact syllables_pos w
    simpa using List.length_le_sum_of_one_le _ each
  · apply List.sum_le_sum
    intro w member
    exact syllables_le ((counted_wordsOf text).exists_alphanumeric member)

/-- A ratio to a number other than zero is their quotient. -/
theorem ratio_of_ne_zero (n : Nat) {d : Nat} (ne : d ≠ 0) :
    ratio n d = floatOf n / floatOf d := by
  rw [ratio, if_neg ne]

/-- The only numbers to which ratios are taken are those of the sentences and of the words. -/
theorem Counts.indicesBy_congr {counts : Counts} {ratio quotient : Nat → Nat → Float}
    (sentences : ∀ n, ratio n counts.sentences = quotient n counts.sentences)
    (words : ∀ n, ratio n counts.words = quotient n counts.words) :
    counts.indicesBy ratio = counts.indicesBy quotient := by
  simp only [indicesBy, sentences, words]

/-- Either a text has no word, and all its counts and indices are zero; or its counts are positive
and ordered. Then the one sentence that a text with words is granted was counted anyway, and no
ratio is taken of a count to zero: the indices are the same for every way to take ratios that
divides by the numbers other than zero. -/
theorem statistics_ordered (text : List Char) :
    (wordsOf text = [] ∧
      Statistics.of text = ⟨⟨0, 0, 0, 0⟩, ⟨0.0, 0.0, 0.0, 0.0, 0.0⟩⟩) ∨
    (wordsOf text ≠ [] ∧ ∃ counts : Counts, (Statistics.of text).counts = counts ∧
      1 ≤ counts.sentences ∧ counts.sentences ≤ counts.words ∧
      counts.words ≤ counts.syllables ∧ counts.syllables ≤ counts.letters ∧
      counts.words = (wordsOf text).length ∧ counts.sentences = sentenceCount text ∧
      ∀ quotient : Nat → Nat → Float,
        (∀ n d, d ≠ 0 → quotient n d = floatOf n / floatOf d) →
          (Statistics.of text).indices = counts.indicesBy quotient) := by
  by_cases empty : wordsOf text = []
  · refine .inl ⟨empty, ?_⟩
    simp [Statistics.of, Counts.of, empty]
  · right
    have least := (sentenceCount_bounds text).2 empty
    have words : (Counts.of text).words = (wordsOf text).length := by rw [Counts.of_eq]
    have sentences : (Counts.of text).sentences = sentenceCount text := by rw [Counts.of_eq]
    have positive : (Counts.of text).words ≠ 0 := by
      rw [words]
      exact (List.length_pos_iff.mpr empty).ne'
    have whole : Statistics.of text = ⟨Counts.of text, (Counts.of text).indices⟩ := by
      simp [Statistics.of, positive]
    obtain ⟨first, second, third⟩ := Counts.of_ordered text
    rw [whole]
    refine ⟨empty, Counts.of text, rfl, sentences ▸ least, first, second, third, words, sentences,
      ?_⟩
    intro quotient divides
    have divided (n d : Nat) (ne : d ≠ 0) : ratio n d = quotient n d := by
      rw [ratio_of_ne_zero n ne, divides n d ne]
    apply Counts.indicesBy_congr
    · intro n
      exact divided n _ (by omega)
    · intro n
      exact divided n _ positive

/-! ### Adding counts -/

/-- Counts are added field by field. -/
instance : Add Counts :=
  ⟨fun a b => ⟨a.words + b.words, a.sentences + b.sentences, a.syllables + b.syllables,
    a.letters + b.letters⟩⟩

instance : Zero Counts := ⟨⟨0, 0, 0, 0⟩⟩

theorem Counts.add_def (a b : Counts) : a + b = ⟨a.words + b.words, a.sentences + b.sentences,
    a.syllables + b.syllables, a.letters + b.letters⟩ := rfl

theorem Counts.zero_def : (0 : Counts) = ⟨0, 0, 0, 0⟩ := rfl

instance : AddCommMonoid Counts where
  add_assoc a b c := by simp [Counts.add_def, Nat.add_assoc]
  zero_add a := by simp [Counts.add_def, Counts.zero_def]
  add_zero a := by simp [Counts.add_def, Counts.zero_def]
  add_comm a b := by simp [Counts.add_def, Nat.add_comm]
  nsmul := nsmulRec

namespace Counts

theorem of_append_end (ends : endsSentence c = true) (a b : List Char) :
    Counts.of (a ++ c :: b) = Counts.of a + Counts.of b := by
  rw [of_eq, of_eq a, of_eq b, add_def, wordsOf_append_end ends, sentenceCount_append_end ends]
  simp

/-- The counts of a text are those of its pieces. -/
theorem of_eq_sum (text : List Char) :
    Counts.of text = ((Text.splitOn endsSentence text).map Counts.of).sum := by
  induction text using Text.induction_on_pieces endsSentence with
  | uncut s none => simp [Text.splitOn_eq_singleton none]
  | joined s c t ends first second =>
    rw [of_append_end ends, Text.splitOn_append_cons ends, List.map_append, List.sum_append,
      first, second]

theorem of_map_toLower (text : List Char) : Counts.of (text.map Char.toLower) = Counts.of text := by
  rw [of_eq, of_eq text, wordsOf_map_toLower, sentenceCount_map_toLower]
  simp only [List.length_map, List.map_map, Function.comp_def, syllables_map_toLower,
    countP_isAlphanumeric_map_toLower]

end Counts

/-- The counts of a text are the sums of those of the texts before and after the end of a sentence;
they do not depend on the case of its letters, nor on the order of the pieces between the ends of
its sentences and on which ends these are. -/
theorem counts_add_up :
    (∀ a b : List Char, ∀ c ∈ ['.', '!', '?', '\n'],
      Counts.of (a ++ c :: b) = Counts.of a + Counts.of b) ∧
    (∀ text other : List Char, text.map Char.toLower = other.map Char.toLower →
      Counts.of text = Counts.of other) ∧
    (∀ text other : List Char,
      (Text.splitOn endsSentence text).Perm (Text.splitOn endsSentence other) →
        Counts.of text = Counts.of other) := by
  refine ⟨?added, ?cased, ?reordered⟩
  case added =>
    intro a b c ends
    exact Counts.of_append_end (endsSentence_iff.mpr ends) a b
  case cased =>
    intro text other same
    rw [← Counts.of_map_toLower text, same, Counts.of_map_toLower other]
  case reordered =>
    intro text other perm
    rw [Counts.of_eq_sum text, Counts.of_eq_sum other]
    exact (perm.map Counts.of).sum_eq

end DocLint.Prose
