import DocLint.Prose.Spelling
import DocLint.Proofs.Pattern.Sites

/-!
# The words of a text

A word is a run of ASCII letters, or several of them joined by single apostrophes. The words of a
text are the ones that neither side of the text continues; they do not overlap, so that cutting a
text from left to right finds them all.
-/
namespace DocLint.Prose

open Unicode

/-- Runs of ASCII letters, joined by single apostrophes. -/
inductive IsWord : List Char → Prop
  | letter {c : Char} (letter : isAsciiLetter c = true) : IsWord [c]
  | cons {c : Char} {word : List Char} (letter : isAsciiLetter c = true) (later : IsWord word) :
      IsWord (c :: word)
  | join {c : Char} {word : List Char} (letter : isAsciiLetter c = true) (later : IsWord word) :
      IsWord (c :: '\'' :: word)

/-- The text does not continue a word in front of it: it starts neither with a letter nor with an
apostrophe and a letter. -/
def EndsWord : List Char → Prop
  | [] => True
  | c :: rest =>
    isAsciiLetter c = false ∧ (c = '\'' → ∀ d ∈ rest.head?, isAsciiLetter d = false)

/-- A word, with the bytes from `start` up to `stop` that it occupies. -/
@[ext] structure PlacedWord where
  start : Nat
  stop : Nat
  word : List Char

def PlacedWord.StandsIn (p : PlacedWord) (n : Nat) (text : List Char) : Prop :=
  ∃ before after, text = before ++ (p.word ++ after) ∧
    p.start = n + byteLength before ∧ p.stop = n + byteLength (before ++ p.word) ∧
    EndsWord before.reverse ∧ IsWord p.word ∧ EndsWord after

/-- All words of a text, in front of which are `n` bytes, from left to right. -/
structure AreWords (n : Nat) (text : List Char) (words : List PlacedWord) : Prop where
  mem_iff : ∀ p, p ∈ words ↔ p.StandsIn n text
  ordered : words.Pairwise fun p q => p.stop < q.start

variable {c : Char} {u v w r r' text gap : List Char} {words : List PlacedWord} {n : Nat}

/-! ### Where words end -/

theorem isAsciiLetter_apostrophe : isAsciiLetter '\'' = false := by decide

theorem IsWord.exists_cons (word : IsWord w) : ∃ c r, w = c :: r ∧ isAsciiLetter c = true := by
  cases word with
  | letter letter => exact ⟨_, _, rfl, letter⟩
  | cons letter _ => exact ⟨_, _, rfl, letter⟩
  | join letter _ => exact ⟨_, _, rfl, letter⟩

theorem IsWord.ne_nil (word : IsWord w) : w ≠ [] := by
  obtain ⟨c, r, rfl, -⟩ := word.exists_cons
  exact List.cons_ne_nil c r

theorem not_isWord_apostrophe : ¬IsWord ('\'' :: w) := fun word => by
  obtain ⟨c, r, same, letter⟩ := word.exists_cons
  rw [← (List.cons.inj same).1, isAsciiLetter_apostrophe] at letter
  cases letter

theorem not_endsWord_of_letter (letter : isAsciiLetter c = true) : ¬EndsWord (c :: r) :=
  fun ends => by rw [ends.1] at letter; cases letter

theorem not_endsWord_of_apostrophe (letter : isAsciiLetter c = true) :
    ¬EndsWord ('\'' :: c :: r) :=
  fun ends => by rw [ends.2 rfl c rfl] at letter; cases letter

theorem IsWord.not_endsWord (word : IsWord w) : ¬EndsWord (w ++ r) := by
  obtain ⟨c, w, rfl, letter⟩ := word.exists_cons
  exact not_endsWord_of_letter letter

/-- What is left of a word after a word at its start continues that word. -/
theorem IsWord.not_endsWord_of_append (word : IsWord w) (longer : IsWord (w ++ v))
    (more : v ≠ []) : ¬EndsWord (v ++ r) := by
  induction word with
  | letter letter =>
    cases longer with
    | letter => exact absurd rfl more
    | cons _ later => exact later.not_endsWord
    | join _ later =>
      obtain ⟨d, w, rfl, letter⟩ := later.exists_cons
      exact not_endsWord_of_apostrophe letter
  | cons letter later ih =>
    rw [List.cons_append] at longer
    generalize same : _ ++ v = whole at longer
    cases longer with
    | letter => exact absurd (List.append_eq_nil_iff.mp same).2 more
    | cons _ inner => exact ih (same ▸ inner)
    | join _ inner =>
      obtain ⟨d, w, rfl, letter⟩ := later.exists_cons
      rw [(List.cons.inj same).1, isAsciiLetter_apostrophe] at letter
      cases letter
  | join letter later ih =>
    rw [List.cons_append, List.cons_append] at longer
    cases longer with
    | cons _ inner => exact absurd inner not_isWord_apostrophe
    | join _ inner => exact ih inner

/-- A letter inside a word continues what stands in front of it to the left. -/
theorem IsWord.not_endsWord_reverse (word : IsWord (u ++ c :: r)) (letter : isAsciiLetter c = true)
    (more : u ≠ []) : ¬EndsWord (u.reverse ++ r') := by
  generalize whole : u ++ c :: r = w at word
  induction word generalizing u r' with
  | letter =>
    obtain ⟨x, u, rfl⟩ := List.exists_cons_of_ne_nil more
    simp at whole
  | @cons x w first later ih =>
    obtain ⟨y, u, rfl⟩ := List.exists_cons_of_ne_nil more
    rw [List.cons_append, List.cons.injEq] at whole
    obtain ⟨rfl, whole⟩ := whole
    rw [List.reverse_cons, List.append_assoc]
    by_cases last : u = []
    · subst last
      exact not_endsWord_of_letter first
    · exact ih last whole
  | @join x w first later ih =>
    obtain ⟨y, u, rfl⟩ := List.exists_cons_of_ne_nil more
    rw [List.cons_append, List.cons.injEq] at whole
    obtain ⟨rfl, whole⟩ := whole
    cases u with
    | nil =>
      rw [List.nil_append, List.cons.injEq] at whole
      rw [whole.1, isAsciiLetter_apostrophe] at letter
      cases letter
    | cons z u =>
      rw [List.cons_append, List.cons.injEq] at whole
      obtain ⟨rfl, whole⟩ := whole
      rw [List.reverse_cons, List.reverse_cons, List.append_assoc, List.append_assoc]
      by_cases last : u = []
      · subst last
        exact not_endsWord_of_apostrophe first
      · exact ih last whole

/-- A text starts with one word at most that it does not continue. -/
theorem IsWord.eq_of_append_eq (word : IsWord w) (ends : EndsWord r) (other : IsWord v)
    (ends' : EndsWord r') (same : w ++ r = v ++ r') : w = v ∧ r = r' := by
  rcases List.append_eq_append_iff.mp same with ⟨x, rfl, rfl⟩ | ⟨x, rfl, rfl⟩
  · by_cases none : x = []
    · subst none; simp
    · exact absurd ends (word.not_endsWord_of_append other none)
  · by_cases none : x = []
    · subst none; simp
    · exact absurd ends' (other.not_endsWord_of_append word none)

/-- A text that starts with a letter starts with a word that it does not continue. -/
theorem exists_first_word (letter : isAsciiLetter c = true) (r : List Char) :
    ∃ w r', c :: r = w ++ r' ∧ IsWord w ∧ EndsWord r' := by
  induction length : r.length using Nat.strongRecOn generalizing c r with
  | _ n ih =>
    subst length
    match r with
    | [] => exact ⟨[c], [], rfl, .letter letter, trivial⟩
    | d :: r =>
      cases next : isAsciiLetter d with
      | true =>
        obtain ⟨w, r', split, word, ends⟩ := ih _ (Nat.lt_succ_self _) next r rfl
        exact ⟨c :: w, r', by rw [split, List.cons_append], .cons letter word, ends⟩
      | false =>
        by_cases joined : d = '\'' ∧ ∃ e ∈ r.head?, isAsciiLetter e = true
        · obtain ⟨rfl, e, first, letter'⟩ := joined
          obtain ⟨r, rfl⟩ : ∃ t, r = e :: t := List.head?_eq_some_iff.mp first
          obtain ⟨w, r', split, word, ends⟩ := ih _ (by simp only [List.length_cons]; omega) letter' r rfl
          exact ⟨c :: '\'' :: w, r', by simp [split], .join letter word, ends⟩
        · refine ⟨[c], d :: r, rfl, .letter letter, next, fun same e first => ?_⟩
          cases letter' : isAsciiLetter e with
          | false => rfl
          | true => exact absurd ⟨same, e, first, letter'⟩ joined

/-! ### Cutting a text -/

inductive Cut : Nat → List Char → List PlacedWord → Prop
  | done {n : Nat} {gap : List Char} (blank : ∀ c ∈ gap, isAsciiLetter c = false) : Cut n gap []
  | next {n : Nat} {gap w rest : List Char} {words : List PlacedWord}
      (blank : ∀ c ∈ gap, isAsciiLetter c = false) (word : IsWord w) (ends : EndsWord rest)
      (later : Cut (n + byteLength (gap ++ w)) rest words) :
      Cut n (gap ++ (w ++ rest)) (⟨n + byteLength gap, n + byteLength (gap ++ w), w⟩ :: words)

theorem endsWord_of_no_letter (blank : ∀ c ∈ w, isAsciiLetter c = false) : EndsWord w := by
  cases w with
  | nil => trivial
  | cons c w =>
    rw [List.forall_mem_cons] at blank
    exact ⟨blank.1, fun _ d first => blank.2 d (List.mem_of_head? first)⟩

theorem EndsWord.of_append (ends : EndsWord (u ++ v)) : EndsWord u := by
  cases u with
  | nil => trivial
  | cons c u =>
    refine ⟨ends.1, fun same d first => ends.2 same d ?_⟩
    show d ∈ (u ++ v).head?
    rw [List.head?_append, Option.mem_def.mp first]
    rfl

/-- Only a text that is empty or an apostrophe can leave it to what follows. -/
theorem EndsWord.append (ends : EndsWord u) (empty : u = [] → EndsWord v)
    (joined : u = ['\''] → ∀ c ∈ v.head?, isAsciiLetter c = false) : EndsWord (u ++ v) := by
  cases u with
  | nil => exact empty rfl
  | cons c u =>
    refine ⟨ends.1, fun same d next => ?_⟩
    cases u with
    | nil => exact joined (same ▸ rfl) d next
    | cons e u => exact ends.2 same d next

/-- Between a word and the next one there is more than an apostrophe. -/
theorem EndsWord.before_word (ends : EndsWord (u ++ (w ++ r))) (word : IsWord w) :
    u ≠ [] ∧ u ≠ ['\''] := by
  obtain ⟨c, w, rfl, letter⟩ := word.exists_cons
  constructor
  · rintro rfl
    exact not_endsWord_of_letter letter ends
  · rintro rfl
    exact not_endsWord_of_apostrophe letter ends

/-- Where a text starts with a gap and a word, any word of it is that one or stands after it. -/
theorem first_or_later {before after : List Char} (blank : ∀ c ∈ gap, isAsciiLetter c = false)
    (word : IsWord w) (ends : EndsWord r) (word' : IsWord v) (ends' : EndsWord after)
    (starts : EndsWord before.reverse) (whole : gap ++ (w ++ r) = before ++ (v ++ after)) :
    before = gap ∧ v = w ∨ ∃ y, before = gap ++ (w ++ y) ∧ r = y ++ (v ++ after) := by
  obtain ⟨c, v, rfl, letter⟩ := word'.exists_cons
  rcases List.append_eq_append_iff.mp whole with ⟨x, rfl, split⟩ | ⟨x, rfl, split⟩
  · by_cases atStart : x = []
    · subst atStart
      exact .inl ⟨List.append_nil gap, (word.eq_of_append_eq ends word' ends' split).1.symm⟩
    · rcases List.append_eq_append_iff.mp split with ⟨y, rfl, later⟩ | ⟨y, rfl, later⟩
      · exact .inr ⟨y, rfl, later⟩
      · cases y with
        | nil => exact absurd ends (by rw [← List.nil_append r, ← later]; exact word'.not_endsWord)
        | cons d y =>
          have same : d = c := (List.cons.inj later).1.symm
          rw [List.reverse_append] at starts
          exact absurd starts (word.not_endsWord_reverse (same ▸ letter) atStart)
  · cases x with
    | nil =>
      have first := word.eq_of_append_eq ends word' ends' split.symm
      exact .inl ⟨(List.append_nil before).symm, first.1.symm⟩
    | cons d x =>
      have same : d = c := (List.cons.inj split).1.symm
      have noLetter : isAsciiLetter d = false := blank d (by simp)
      rw [← same, noLetter] at letter
      cases letter

theorem Cut.mem_iff (cut : Cut n text words) (p : PlacedWord) :
    p ∈ words ↔ p.StandsIn n text := by
  induction cut with
  | done blank =>
    refine ⟨fun none => absurd none List.not_mem_nil, ?_⟩
    rintro ⟨before, after, rfl, -, -, -, word, -⟩
    obtain ⟨c, w, same, letter⟩ := word.exists_cons
    rw [blank c (by simp [same])] at letter
    cases letter
  | @next n gap w rest words blank word ends later ih =>
    rw [List.mem_cons, ih]
    constructor
    · rintro (rfl | ⟨before, after, rfl, start, stop, starts, word', ends'⟩)
      · exact ⟨gap, rest, rfl, rfl, rfl, endsWord_of_no_letter (by simpa using blank), word, ends⟩
      · have apart := ends.before_word word'
        refine ⟨gap ++ (w ++ before), after, by simp, ?_, ?_, ?_, word', ends'⟩
        · simp [start, Nat.add_assoc]
        · simp [stop, Nat.add_assoc]
        · rw [List.reverse_append, List.reverse_append, List.append_assoc]
          exact starts.append (fun none => absurd none (by simpa using apart.1))
            (fun one => absurd one (by simpa using apart.2))
    · rintro ⟨before, after, split, start, stop, starts, word', ends'⟩
      rcases first_or_later blank word ends word' ends' starts split with
        ⟨rfl, same⟩ | ⟨y, rfl, rfl⟩
      · exact .inl (PlacedWord.ext start (same ▸ stop) same)
      · refine .inr ⟨y, after, rfl, ?_, ?_, ?_, word', ends'⟩
        · simpa [Nat.add_assoc] using start
        · simpa [Nat.add_assoc] using stop
        · rw [List.reverse_append, List.reverse_append, List.append_assoc] at starts
          exact starts.of_append

theorem Cut.ordered (cut : Cut n text words) : words.Pairwise fun p q => p.stop < q.start := by
  induction cut with
  | done => exact .nil
  | @next n gap w rest words _ _ ends later ih =>
    refine List.pairwise_cons.mpr ⟨fun p member => ?_, ih⟩
    obtain ⟨before, after, rfl, start, -, -, word, -⟩ := (later.mem_iff p).mp member
    have apart := byteLength_pos (ends.before_word word).1
    show n + byteLength (gap ++ w) < p.start
    omega

theorem Cut.areWords (cut : Cut n text words) : AreWords n text words :=
  ⟨cut.mem_iff, cut.ordered⟩

/-! ### The words are determined -/

theorem PlacedWord.StandsIn.start_lt_stop {p : PlacedWord} (stands : p.StandsIn n text) :
    p.start < p.stop := by
  obtain ⟨before, after, -, start, stop, -, word, -⟩ := stands
  have length := byteLength_pos word.ne_nil
  rw [start, stop, byteLength_append]
  omega

theorem AreWords.nodup (areWords : AreWords n text words) : words.Nodup :=
  areWords.ordered.imp_of_mem fun {p q} first _ before same => by
    have length := ((areWords.mem_iff p).mp first).start_lt_stop
    rw [same] at before length
    omega

theorem AreWords.unique {others : List PlacedWord} (areWords : AreWords n text words)
    (also : AreWords n text others) : words = others := by
  have perm : words.Perm others :=
    (List.perm_ext_iff_of_nodup areWords.nodup also.nodup).mpr fun p =>
      (areWords.mem_iff p).trans (also.mem_iff p).symm
  refine perm.eq_of_pairwise (fun p q first second before after => ?_) areWords.ordered also.ordered
  have length := ((areWords.mem_iff p).mp first).start_lt_stop
  have length' := ((also.mem_iff q).mp second).start_lt_stop
  omega

end DocLint.Prose
