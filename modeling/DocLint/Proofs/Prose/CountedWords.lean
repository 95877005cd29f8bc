import DocLint.Prose.Statistics
import DocLint.Proofs.Prose.LetterCase
import DocLint.Proofs.Prose.Runs
import DocLint.Proofs.Prose.Scanning

/-!
# The words that are counted

A counted word is a run of letters and digits, which apostrophes with letters after them may
continue. A text is cut into such words from left to right, each as long as it can be; two of them
may stand side by side. No word goes over a character that is neither alphanumeric nor an
apostrophe, so that the words of a text are those before such a character and those after it.
-/
namespace DocLint.Prose

open Pattern Unicode

variable {c : Char} {s : Site} {run tail rest text gap a b : List Char}
  {words more : List (List Char)}

/-! ### One word -/

/-- A counted word, as a run of letters and digits and what continues it, with a text behind it that
does not. -/
structure CountedHead (run tail rest : List Char) : Prop where
  some : run ≠ []
  inside : ∀ c ∈ run, isAlphanumeric c = true
  closed : ∀ c ∈ (tail ++ rest).head?, isAlphanumeric c = false
  isTail : IsWordTail tail
  ends : EndsWord rest

theorem isAlphanumeric_of_letter (letter : isAsciiLetter c = true) : isAlphanumeric c = true := by
  simp [isAlphanumeric, letter]

theorem isAsciiLetter_of_not_alphanumeric (other : isAlphanumeric c = false) :
    isAsciiLetter c = false := by
  simp only [isAlphanumeric, Bool.or_eq_false_iff] at other
  exact other.1

/-- Behind a run of letters and digits there is what continues it, and a rest. -/
theorem exists_wordTail (back : ∀ c ∈ text.head?, isAlphanumeric c = false) :
    ∃ tail rest, text = tail ++ rest ∧ IsWordTail tail ∧ EndsWord rest := by
  by_cases joined : ∃ d t, text = '\'' :: d :: t ∧ isAsciiLetter d = true
  · obtain ⟨d, t, rfl, letter⟩ := joined
    obtain ⟨w, rest, split, word, ends⟩ := exists_first_word letter t
    exact ⟨'\'' :: w, rest, by rw [split]; rfl, .inr ⟨w, rfl, word⟩, ends⟩
  · refine ⟨[], text, rfl, .inl rfl, ?_⟩
    cases text with
    | nil => trivial
    | cons c t =>
      refine ⟨isAsciiLetter_of_not_alphanumeric (back c rfl), ?_⟩
      rintro rfl d first
      obtain ⟨t, rfl⟩ := List.head?_eq_some_iff.mp first
      cases letter : isAsciiLetter d with
      | false => rfl
      | true => exact absurd ⟨d, t, rfl, letter⟩ joined

/-- The pattern matches the whole word. -/
theorem CountedHead.matchAt? (head : CountedHead run tail rest)
    (here : s.rest = run ++ (tail ++ rest)) :
    countedWord.matchAt? s = Option.some ⟨⟨s, s.past (run ++ tail)⟩, []⟩ := by
  apply matchAt?_of_head?
  apply head?_ends_continued head.some head.inside _ head.isTail head.ends here
  intro x r next
  exact head.closed x (by rw [next]; rfl)

theorem countedWord_startsIn : countedWord.StartsIn isAlphanumeric := startsIn_run.seq

/-! ### Cutting a text -/

/-- A text is cut from left to right into its counted words and the gaps between them. -/
inductive Counted : List Char → List (List Char) → Prop
  | done {gap : List Char} (blank : ∀ c ∈ gap, isAlphanumeric c = false) : Counted gap []
  | next {gap run tail rest : List Char} {words : List (List Char)}
      (blank : ∀ c ∈ gap, isAlphanumeric c = false) (head : CountedHead run tail rest)
      (later : Counted rest words) :
      Counted (gap ++ (run ++ (tail ++ rest))) ((run ++ tail) :: words)

theorem exists_counted (text : List Char) : ∃ words, Counted text words := by
  induction length : text.length using Nat.strongRecOn generalizing text with
  | _ n ih =>
    subst length
    rcases Text.exists_first_run isAlphanumeric text with
      ⟨gap, run, r, rfl, blank, some, inside, back⟩ | blank
    · obtain ⟨tail, rest, rfl, isTail, ends⟩ := exists_wordTail back
      have shorter : rest.length < (gap ++ (run ++ (tail ++ rest))).length := by
        have := List.length_pos_iff.mpr some
        simp only [List.length_append]
        omega
      obtain ⟨words, later⟩ := ih _ shorter rest rfl
      exact ⟨_, .next blank ⟨some, inside, back, isTail, ends⟩ later⟩
    · exact ⟨[], .done blank⟩

namespace Counted

/-- The matches from a site on are the words of the text behind it. -/
theorem map_matchesFrom (counted : Counted text words) (here : s.rest = text)
    (budget : List Char) (enough : text.length ≤ budget.length) :
    (countedWord.matchesFrom budget s).map (·.whole.text) = words := by
  induction counted generalizing s budget with
  | @done gap blank =>
    have parts : s.rest = gap ++ [] := by rw [here, List.append_nil]
    have last := Site.rest_past parts
    rw [matchesFrom_of_outside countedWord_startsIn parts blank,
      matchesFrom_of_finished last (countedWord_startsIn.matchAt?_of_nil last)]
    rfl
  | @next gap run tail rest words blank head later ih =>
    have behindGap := Site.rest_past here
    have word : (s.past gap).rest = (run ++ tail) ++ rest := by
      rw [behindGap, List.append_assoc]
    have solid : run ++ tail ≠ [] := List.append_ne_nil_of_left_ne_nil head.some tail
    have long := List.length_pos_iff.mpr solid
    simp only [List.length_append] at enough long
    cases budget with
    | nil =>
      simp only [List.length_nil] at enough
      omega
    | cons x budget =>
      have covered : (⟨⟨s.past gap, (s.past gap).past (run ++ tail)⟩, []⟩ : Match).whole.text =
          run ++ tail := Site.textTo_past word
      have enough' : rest.length ≤ budget.length := by
        simp only [List.length_cons] at enough
        omega
      rw [matchesFrom_of_outside countedWord_startsIn here blank,
        matchesFrom_of_match (head.matchAt? behindGap) rfl solid, List.map_cons, covered,
        ih (Site.rest_past word) budget enough']

theorem wordsOf_eq (counted : Counted text words) : wordsOf text = words :=
  counted.map_matchesFrom rfl text (Nat.le_refl _)

/-- A character that belongs to no word may stand between two texts. -/
theorem append_cons (first : Counted a words) (second : Counted b more)
    (other : isAlphanumeric c = false) (ne : c ≠ '\'') :
    Counted (a ++ c :: b) (words ++ more) := by
  induction first with
  | @done gap blank =>
    have front : ∀ x ∈ gap ++ [c], isAlphanumeric x = false := by
      intro x inside
      rcases List.mem_append.mp inside with earlier | last
      · exact blank x earlier
      · rwa [List.mem_singleton.mp last]
    have whole (t : List Char) : gap ++ c :: t = (gap ++ [c]) ++ t := by simp
    cases second with
    | done blank' =>
      rw [whole]
      refine .done fun x inside => ?_
      rcases List.mem_append.mp inside with early | late
      · exact front x early
      · exact blank' x late
    | @next gap' run tail rest words blank' head later =>
      have joined : gap ++ c :: (gap' ++ (run ++ (tail ++ rest))) =
          (gap ++ [c] ++ gap') ++ (run ++ (tail ++ rest)) := by simp
      rw [joined]
      refine .next (fun x inside => ?_) head later
      rcases List.mem_append.mp inside with early | late
      · exact front x early
      · exact blank' x late
  | @next gap run tail rest words blank head later ih =>
    have whole : gap ++ (run ++ (tail ++ rest)) ++ c :: b =
        gap ++ (run ++ (tail ++ (rest ++ c :: b))) := by simp
    rw [whole, List.cons_append]
    refine .next blank ⟨head.some, head.inside, ?_, head.isTail, ?_⟩ ih
    · intro x first
      rw [← List.append_assoc] at first
      by_cases last : tail ++ rest = []
      · rw [last] at first
        rwa [← Option.some.inj first]
      · rw [List.head?_append_of_ne_nil _ last] at first
        exact head.closed x first
    · have letter := isAsciiLetter_of_not_alphanumeric other
      apply head.ends.append
      · intro _
        exact ⟨letter, fun same => absurd same ne⟩
      · intro _ x first
        rwa [← Option.some.inj first]

/-- Every word has a letter or a digit. -/
theorem exists_alphanumeric (counted : Counted text words) {w : List Char} (member : w ∈ words) :
    ∃ c ∈ w, isAlphanumeric c = true := by
  induction counted with
  | done => cases member
  | @next gap run tail rest words blank head later ih =>
    rcases List.mem_cons.mp member with rfl | later
    · obtain ⟨c, t, rfl⟩ := List.exists_cons_of_ne_nil head.some
      exact ⟨c, by simp, head.inside c List.mem_cons_self⟩
    · exact ih later

end Counted

theorem counted_wordsOf (text : List Char) : Counted text (wordsOf text) := by
  obtain ⟨words, counted⟩ := exists_counted text
  rw [counted.wordsOf_eq]
  exact counted

theorem found_countedWord_iff (text : List Char) :
    countedWord.found text = true ↔ wordsOf text ≠ [] := by
  rw [found_iff, wordsOf, ne_eq, ne_eq, List.map_eq_nil_iff]

/-- The words of a text with such a character in it are those before and those after it. -/
theorem wordsOf_append_cons (other : isAlphanumeric c = false) (ne : c ≠ '\'') (a b : List Char) :
    wordsOf (a ++ c :: b) = wordsOf a ++ wordsOf b :=
  ((counted_wordsOf a).append_cons (counted_wordsOf b) other ne).wordsOf_eq

/-! ### The case of letters -/

theorem isAlphanumeric_toLower (c : Char) : isAlphanumeric c.toLower = isAlphanumeric c := by
  cases letter : isAsciiLetter c with
  | true =>
    have lower := isAsciiLetter_toLower_of_letter letter
    rw [isAlphanumeric_of_letter letter, isAlphanumeric_of_letter lower]
  | false => rw [toLower_of_not_letter letter]

theorem IsWordTail.lower (isTail : IsWordTail tail) : IsWordTail (tail.map Char.toLower) := by
  rcases isTail with rfl | ⟨w, rfl, word⟩
  · exact .inl rfl
  · exact .inr ⟨w.map Char.toLower, rfl, isWord_map_toLower.mpr word⟩

theorem CountedHead.lower (head : CountedHead run tail rest) :
    CountedHead (run.map Char.toLower) (tail.map Char.toLower) (rest.map Char.toLower) where
  some := by simpa using head.some
  inside := by
    intro x member
    obtain ⟨c, inside, rfl⟩ := List.mem_map.mp member
    rw [isAlphanumeric_toLower]
    exact head.inside c inside
  closed := by
    intro x first
    rw [← List.map_append, List.head?_map] at first
    obtain ⟨c, isFirst, rfl⟩ := Option.map_eq_some_iff.mp first
    rw [isAlphanumeric_toLower]
    exact head.closed c isFirst
  isTail := head.isTail.lower
  ends := endsWord_map_toLower.mpr head.ends

/-- Lowering a text lowers its words. -/
theorem Counted.lower (counted : Counted text words) :
    Counted (text.map Char.toLower) (words.map (·.map Char.toLower)) := by
  have blank {gap : List Char} (blank : ∀ c ∈ gap, isAlphanumeric c = false) :
      ∀ c ∈ gap.map Char.toLower, isAlphanumeric c = false := by
    intro x member
    obtain ⟨c, inside, rfl⟩ := List.mem_map.mp member
    rw [isAlphanumeric_toLower]
    exact blank c inside
  induction counted with
  | done gap => exact .done (blank gap)
  | next gap head _ ih =>
    simp only [List.map_append, List.map_cons]
    exact .next (blank gap) head.lower ih

theorem wordsOf_map_toLower (text : List Char) :
    wordsOf (text.map Char.toLower) = (wordsOf text).map (·.map Char.toLower) :=
  (counted_wordsOf text).lower.wordsOf_eq

end DocLint.Prose
