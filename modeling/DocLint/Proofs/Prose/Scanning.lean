import DocLint.Proofs.Pattern.Replacing
import DocLint.Proofs.Prose.Words
import DocLint.Proofs.Text.Pieces

/-!
# Finding the words of a text

The pattern of words prefers the longest word wherever it matches, so that its matches in a text
are the words of the text.
-/
namespace DocLint.Prose

open Pattern Unicode

variable {c : Cursor} {s : Site} {w r tail : List Char}

/-! ### Runs of letters -/

/-- What is left of a word behind a run of letters: nothing, or an apostrophe and a word. -/
def IsWordTail (tail : List Char) : Prop :=
  tail = [] ∨ ∃ v, tail = '\'' :: v ∧ IsWord v

theorem IsWord.exists_run (word : IsWord w) :
    ∃ run tail, w = run ++ tail ∧ run ≠ [] ∧ (∀ x ∈ run, isAsciiLetter x = true) ∧
      IsWordTail tail := by
  induction word with
  | @letter x letter => exact ⟨[x], [], rfl, by simp, by simpa using letter, .inl rfl⟩
  | @cons x w letter _ ih =>
    obtain ⟨run, tail, rfl, -, letters, goesOn⟩ := ih
    exact ⟨x :: run, tail, rfl, by simp, List.forall_mem_cons.mpr ⟨letter, letters⟩, goesOn⟩
  | @join x w letter later _ =>
    exact ⟨[x], '\'' :: w, rfl, by simp, by simpa using letter, .inr ⟨w, rfl, later⟩⟩

theorem IsWordTail.not_letter (isTail : IsWordTail tail) (ends : EndsWord r) (x : Char)
    (r' : List Char) (next : tail ++ r = x :: r') : isAsciiLetter x = false := by
  rcases isTail with rfl | ⟨v, rfl, -⟩
  · rw [List.nil_append] at next
    rw [next] at ends
    exact ends.1
  · rw [List.cons_append] at next
    rw [← (List.cons.inj next).1]
    exact isAsciiLetter_apostrophe

/-- A run of letters is preferred up to its end. -/
theorem ends_letters {run : List Char} (some : run ≠ [])
    (letters : ∀ x ∈ run, isAsciiLetter x = true) (isTail : IsWordTail tail) (ends : EndsWord r)
    (rest : c.rest = run ++ (tail ++ r)) :
    ∃ shorter, (Pattern.some isAsciiLetter).ends c = c.past run :: shorter := by
  obtain ⟨shorter, eq, -⟩ := ends_run_of_enough rest letters (isTail.not_letter ends)
    (List.length_pos_iff.mpr some)
  exact ⟨shorter, eq⟩

/-! ### The preferred end -/

abbrev joinedRun : Pattern := seq (char '\'') (Pattern.some isAsciiLetter)

theorem ends_joinedRun_of_endsWord (rest : c.rest = r) (ends : EndsWord r) :
    joinedRun.ends c = [] := by
  cases r with
  | nil => exact (startsIn_char '\'').seq.ends_of_nil rest
  | cons x r =>
    by_cases same : x = '\''
    · subst same
      rw [ends_seq_char rest]
      refine startsIn_run _ fun y r' next => ?_
      rw [Cursor.rest_past (u := ['\'']) rest] at next
      exact ends.2 rfl y (by rw [next]; rfl)
    · exact (startsIn_char '\'').seq.ends_eq_nil rest (by simpa [CharSet.one] using same)

/-- Further runs are preferred up to the end of the word. -/
theorem head?_moreRounds (isTail : IsWordTail tail) (ends : EndsWord r) (rest : c.rest = tail ++ r)
    (budget : List Char) (enough : tail.length ≤ budget.length) :
    (moreRounds joinedRun.ends true budget none c).head? = some (c.past tail) := by
  induction budget generalizing c tail with
  | nil =>
    have none : tail = [] := List.length_eq_zero_iff.mp (Nat.le_zero.mp enough)
    rw [none, Cursor.past_nil]
    rfl
  | cons x budget ih =>
    have going : ((none : Option Nat) == Option.some 0) = false := rfl
    rw [moreRounds]
    simp only [going, Bool.false_eq_true, if_false, if_true]
    rcases isTail with rfl | ⟨v, rfl, word⟩
    · rw [ends_joinedRun_of_endsWord rest ends, Cursor.past_nil]
      rfl
    · obtain ⟨run, tail, rfl, long, letters, isTail⟩ := word.exists_run
      have next : (c.past ['\'']).rest = run ++ (tail ++ r) :=
        Cursor.rest_past (u := ['\'']) (by rw [rest]; simp)
      obtain ⟨shorter, eq⟩ := ends_letters long letters isTail ends next
      have ahead : c.offset < ((c.past ['\'']).past run).offset := by
        rw [Cursor.past_past]
        exact Site.offset_lt_past (by simp)
      have further : (moreRounds joinedRun.ends true budget none ((c.past ['\'']).past run)).head? =
          some (c.past ('\'' :: (run ++ tail))) := by
        rw [ih isTail (Cursor.rest_past next) (by
          simp only [List.length_cons, List.length_append] at enough; omega)]
        simp only [Cursor.past_past, List.cons_append, List.nil_append]
      rw [ends_seq_char (by rw [rest]; rfl), eq, List.flatMap_cons, if_pos ahead, Option.map_none,
        List.append_assoc, List.head?_append, further]
      rfl

/-- A run of characters that is continued like a word is preferred up to the end of the word. -/
theorem head?_ends_continued {set : CharSet} {run : List Char} (some : run ≠ [])
    (inside : ∀ x ∈ run, set x = true) (closed : ∀ x r', tail ++ r = x :: r' → set x = false)
    (isTail : IsWordTail tail) (ends : EndsWord r) (rest : c.rest = run ++ (tail ++ r)) :
    ((seq (Pattern.some set) (star joinedRun)).ends c).head? =
      Option.some (c.past (run ++ tail)) := by
  have long : 1 ≤ run.length := List.length_pos_iff.mpr some
  obtain ⟨shorter, eq, -⟩ := ends_run_of_enough rest inside closed long
  have behind : (c.past run).rest = tail ++ r := Cursor.rest_past rest
  have rounds : (star joinedRun).ends (c.past run) =
      moreRounds joinedRun.ends true (c.past run).rest none (c.past run) := List.append_nil _
  have further := head?_moreRounds isTail ends behind (c.past run).rest
    (by rw [behind, List.length_append]; omega)
  rw [ends_seq, Pattern.some, eq, List.flatMap_cons, List.head?_append, rounds, further,
    Cursor.past_past]
  rfl

theorem head?_ends_spelledWord (word : IsWord w) (ends : EndsWord r) (rest : c.rest = w ++ r) :
    (spelledWord.ends c).head? = some (c.past w) := by
  obtain ⟨run, tail, rfl, long, letters, isTail⟩ := word.exists_run
  rw [List.append_assoc] at rest
  exact head?_ends_continued long letters (isTail.not_letter ends) isTail ends rest

theorem spelledWord_startsIn : spelledWord.StartsIn isAsciiLetter := startsIn_run.seq

/-! ### The matches -/

def placed (m : Match) : PlacedWord :=
  ⟨m.whole.start.offset, m.whole.stop.offset, m.whole.text⟩

/-- The match at a site is where the preferred end is. -/
theorem matchAt?_of_head? {p : Pattern}
    (preferred : (p.ends (.ofSite s)).head? = some ((Cursor.ofSite s).past w)) :
    p.matchAt? s = some ⟨⟨s, s.past w⟩, []⟩ := by
  obtain ⟨others, eq⟩ := List.head?_eq_some_iff.mp preferred
  rw [matchAt?, eq]
  rfl

theorem matchAt?_of_word (word : IsWord w) (ends : EndsWord r) (rest : s.rest = w ++ r) :
    spelledWord.matchAt? s = some ⟨⟨s, s.past w⟩, []⟩ :=
  matchAt?_of_head? (head?_ends_spelledWord (c := .ofSite s) word ends rest)

/-- From a site on, the matches cut the text into its words. -/
theorem cut_matchesFrom (budget : List Char) (s : Site) (enough : s.rest.length ≤ budget.length) :
    Cut s.offset s.rest ((spelledWord.matchesFrom budget s).map placed) := by
  induction budget generalizing s with
  | nil =>
    have last : s.rest = [] := List.length_eq_zero_iff.mp (Nat.le_zero.mp enough)
    rw [matchesFrom_of_finished last (spelledWord_startsIn.matchAt?_of_nil last), last]
    exact .done (by simp)
  | cons x budget ih =>
    rcases Text.exists_first_piece isAsciiLetter s.rest with
      ⟨piece, r, whole, gap, y, rfl, letter, blank⟩ | blank
    · obtain ⟨w, r', split, word, ends⟩ := exists_first_word letter r
      have parts : s.rest = gap ++ (w ++ r') := by rw [whole, ← split]; simp
      have here := Site.rest_past parts
      have shorter : r'.length ≤ budget.length := by
        have some := List.length_pos_iff.mpr word.ne_nil
        simp only [parts, List.length_append, List.length_cons] at enough
        omega
      have place : placed ⟨⟨s.past gap, (s.past gap).past w⟩, []⟩ =
          ⟨s.offset + byteLength gap, s.offset + byteLength (gap ++ w), w⟩ := by
        rw [Site.past_past]
        exact PlacedWord.ext rfl rfl (Site.textTo_past_past parts)
      have later := ih ((s.past gap).past w) (by rwa [Site.rest_past here])
      rw [Site.rest_past here, Site.past_past] at later
      rw [matchesFrom_of_outside spelledWord_startsIn parts blank,
        matchesFrom_of_match (matchAt?_of_word word ends here) rfl word.ne_nil, parts,
        List.map_cons, place, Site.past_past]
      exact .next blank word ends later
    · have parts : s.rest = s.rest ++ [] := (List.append_nil _).symm
      have last := Site.rest_past parts
      rw [matchesFrom_of_outside spelledWord_startsIn parts blank,
        matchesFrom_of_finished last (spelledWord_startsIn.matchAt?_of_nil last)]
      exact .done blank

/-- The matches of the pattern in a text are the words of the text. -/
theorem areWords_allMatches (text : List Char) :
    AreWords 0 text ((spelledWord.allMatches text).map placed) :=
  (cut_matchesFrom text (.first text) (Nat.le_refl _)).areWords

end DocLint.Prose
