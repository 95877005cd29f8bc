import DocLint.Proofs.Prose.Runs
import DocLint.Proofs.Prose.Suggestions
import DocLint.Proofs.Text.Ascii

/-!
# Repeated words

The words of a line are its runs of ASCII letters and apostrophes. Every two neighbouring words that
are equal up to the case of letters, with nothing but blanks between them, make one suggestion, and
there are no others; so a row of such words makes one suggestion less than it has words.
-/
namespace DocLint.Prose

open Pattern Text

def isPlainWordChar (c : Char) : Bool :=
  Unicode.isAsciiLetter c || c == '\''

/-- Two texts of a line with a gap between them, and what stands before and after them. -/
structure WordPair where
  before : List Char
  first : List Char
  gap : List Char
  second : List Char
  after : List Char

namespace WordPair

def firstSpan (p : WordPair) : Span := ⟨p.before, p.first, p.gap ++ (p.second ++ p.after)⟩

def secondSpan (p : WordPair) : Span := ⟨p.before ++ (p.first ++ p.gap), p.second, p.after⟩

def text (p : WordPair) : List Char := p.first ++ (p.gap ++ p.second)

/-- The texts are words of the line, and there is no other word between them. -/
structure StandsIn (p : WordPair) (line : List Char) : Prop where
  first : p.firstSpan.IsRun isPlainWordChar line
  second : p.secondSpan.IsRun isPlainWordChar line
  apart : ∀ c ∈ p.gap, isPlainWordChar c = false

/-- The texts are equal up to the case of ASCII letters, and only blanks are between them. -/
def repeats (p : WordPair) : Bool :=
  Unicode.eqIgnoringAsciiCase p.first p.second && isBlankText p.gap

def suggestion (p : WordPair) : Suggestion :=
  ⟨byteLength p.before, byteLength p.text, inQuotes p.text ++ " is repeated"⟩

def spans (p : WordPair) : Span × Span := (p.firstSpan, p.secondSpan)

def ofSpans : Span × Span → WordPair
  | (a, b) => ⟨a.before, a.text, b.before.drop (a.before.length + a.text.length), b.text, b.after⟩

end WordPair

variable {line before after : List Char} {p : WordPair} {a b : Span} {runs : List Span}

/-! ### The words -/

theorem isPlainWordChar_of_isBlank {c : Char} (blank : isBlank c = true) :
    isPlainWordChar c = false := by
  rw [isPlainWordChar, Bool.or_eq_false_iff, beq_eq_false_iff_ne]
  constructor
  · cases letter : Unicode.isAsciiLetter c with
    | false => rfl
    | true => rw [isBlank_of_isAsciiLetter letter] at blank; cases blank
  · rintro rfl
    exact absurd blank (by decide)

theorem plainWord_listsRuns : plainWord.ListsRuns isPlainWordChar fun _ => true where
  starts := startsIn_run
  found {s w r} run _ := by
    have enough : 1 ≤ w.length := List.length_pos_iff.mpr run.some
    obtain ⟨shorter, eq, -⟩ := ends_run_of_enough (c := .ofSite s) run.rest run.inside
      (fun x r' next => run.back x (by rw [next]; rfl)) enough
    have matched : plainWord.matchAt? s = some ⟨⟨s, s.past w⟩, []⟩ := by
      rw [matchAt?, show plainWord.ends (.ofSite s) = _ from eq]
      rfl
    exact ⟨_, matched, rfl⟩
  missed _ unwanted := by cases unwanted

/-- Two neighbouring words of a line, as parts of it. -/
theorem mem_neighbours_words (cut : RunsFrom isPlainWordChar [] line runs) :
    (a, b) ∈ neighbours runs ↔ ∃ p : WordPair, p.StandsIn line ∧ p.spans = (a, b) := by
  have words (a : Span) : a ∈ runs ↔ a.IsRun isPlainWordChar line := by
    rw [cut.mem_iff rfl (.inl (by simp))]
    simp
  rw [cut.mem_neighbours_iff, words, words]
  constructor
  · rintro ⟨first, second, gap, eq, apart⟩
    obtain ⟨front, text, after⟩ := a
    obtain ⟨front', text', after'⟩ := b
    dsimp only at eq
    subst eq
    have behind : after = gap ++ (text' ++ after') := by
      simpa using first.split.symm.trans second.split
    subst behind
    exact ⟨⟨front, text, gap, text', after'⟩, ⟨first, second, apart⟩, rfl⟩
  · rintro ⟨p, stands, ⟨⟩⟩
    exact ⟨stands.first, stands.second, p.gap, rfl, stands.apart⟩

theorem WordPair.ofSpans_spans (p : WordPair) : ofSpans p.spans = p := by
  obtain ⟨before, first, gap, second, after⟩ := p
  have gap' : (before ++ (first ++ gap)).drop (before.length + first.length) = gap := by
    rw [← List.append_assoc, ← List.length_append, List.drop_left]
  simp only [spans, ofSpans, firstSpan, secondSpan, gap']

/-! ### The suggestions -/

theorem neighbours_map {α β : Type} (f : α → β) (items : List α) :
    neighbours (items.map f) = (neighbours items).map (Prod.map f f) := by
  rw [neighbours, ← List.map_tail, List.zip_map]
  rfl

theorem map_filter_eq_filterMap {α β : Type} (wanted : α → Bool) (f : α → β) (items : List α) :
    (items.filter wanted).map f = items.filterMap fun x => if wanted x then some (f x) else none := by
  rw [← List.filterMap_eq_map, List.filterMap_filter]
  rfl

/-- What is suggested for two words. -/
theorem repeated_of_standsIn (stands : p.StandsIn line) :
    (if Unicode.eqIgnoringAsciiCase (captureOf line p.firstSpan).text (captureOf line p.secondSpan).text &&
        isBlankText ((captureOf line p.firstSpan).stop.textTo (captureOf line p.secondSpan).start) then
      let both : Capture := ⟨(captureOf line p.firstSpan).start, (captureOf line p.secondSpan).stop⟩
      some (Suggestion.at both (inQuotes both.text ++ " is repeated"))
    else none) = if p.repeats then some p.suggestion else none := by
  obtain ⟨before, first, gap, second, after⟩ := p
  have split : (Site.first line).rest = before ++ (first ++ (gap ++ (second ++ after))) :=
    stands.first.split
  have word : (captureOf line (WordPair.firstSpan ⟨before, first, gap, second, after⟩)).text = first :=
    Site.textTo_past_past split
  have other : (captureOf line (WordPair.secondSpan ⟨before, first, gap, second, after⟩)).text =
      second := Site.textTo_past_past stands.second.split
  have between : ((Site.first line).past (before ++ first)).textTo
      ((Site.first line).past (before ++ (first ++ gap))) = gap := by
    rw [← List.append_assoc]
    exact Site.textTo_past_past (r := second ++ after) (by simpa using split)
  have whole : ((Site.first line).past before).textTo
      ((Site.first line).past (before ++ (first ++ (gap ++ second)))) = first ++ (gap ++ second) :=
    Site.textTo_past_past (r := after) (by simpa using split)
  have stop : before ++ (first ++ gap) ++ second = before ++ (first ++ (gap ++ second)) := by simp
  rw [word, other]
  simp only [captureOf, WordPair.firstSpan, WordPair.secondSpan, between, WordPair.repeats, stop,
    Capture.text, whole, Suggestion.at, Capture.length, WordPair.suggestion, WordPair.text]
  simp only [Site.past, Site.first, byteLength_append, Nat.zero_add, Nat.add_sub_cancel_left]

/-- The suggestions are those for the neighbouring words that are repeated. -/
theorem repeatedWords_eq (cut : RunsFrom isPlainWordChar [] line runs) :
    repeatedWords line = (((neighbours runs).map WordPair.ofSpans).filter
      WordPair.repeats).map WordPair.suggestion := by
  have matches' := plainWord_listsRuns.map_allMatches cut
  rw [List.filter_eq_self.mpr fun _ _ => rfl] at matches'
  rw [repeatedWords, matches', neighbours_map, List.filterMap_map, map_filter_eq_filterMap,
    List.filterMap_map]
  refine List.filterMap_congr fun ends member => ?_
  obtain ⟨a, b⟩ := ends
  obtain ⟨p, stands, same⟩ := (mem_neighbours_words cut).mp member
  rw [← same]
  exact (repeated_of_standsIn stands).trans (by rw [Function.comp_apply, p.ofSpans_spans])

/-- The neighbouring words of a line, from left to right. -/
structure ArePairs (line : List Char) (pairs : List WordPair) : Prop where
  mem_iff : ∀ p, p ∈ pairs ↔ p.StandsIn line
  ordered : pairs.Pairwise fun p q => byteLength p.before < byteLength q.before

theorem exists_arePairs (line : List Char) :
    ∃ pairs, ArePairs line pairs ∧
      repeatedWords line = (pairs.filter WordPair.repeats).map WordPair.suggestion := by
  obtain ⟨runs, cut⟩ := exists_runsFrom isPlainWordChar [] line
  refine ⟨_, ⟨fun p => ?_, ?_⟩, repeatedWords_eq cut⟩
  · rw [List.mem_map]
    constructor
    · rintro ⟨⟨a, b⟩, member, rfl⟩
      obtain ⟨p, stands, same⟩ := (mem_neighbours_words cut).mp member
      rw [← same, p.ofSpans_spans]
      exact stands
    · intro stands
      exact ⟨p.spans, (mem_neighbours_words cut).mpr ⟨p, stands, rfl⟩, p.ofSpans_spans⟩
  · exact List.pairwise_map.mpr (pairwise_neighbours cut.ordered)

/-! ### Rows of repeated words -/

/-- A word and further ones, each with the gap before it. -/
structure WordRow where
  first : List Char
  more : List (List Char × List Char)

namespace WordRow

def tail (more : List (List Char × List Char)) : List Char :=
  more.flatMap fun (gap, w) => gap ++ w

def text (row : WordRow) : List Char := row.first ++ tail row.more

/-- All of them are words, equal up to the case of ASCII letters, with blanks between them, and what
stands before and after the row does not continue it. -/
structure StandsBetween (row : WordRow) (before after : List Char) : Prop where
  words : ∀ w ∈ row.first :: row.more.map Prod.snd, w ≠ [] ∧ ∀ c ∈ w, isPlainWordChar c = true
  same : ∀ w ∈ row.more.map Prod.snd, Unicode.eqIgnoringAsciiCase row.first w = true
  gaps : ∀ gap ∈ row.more.map Prod.fst, gap ≠ [] ∧ isBlankText gap = true
  front : ∀ c ∈ before.getLast?, isPlainWordChar c = false
  back : ∀ c ∈ after.head?, isPlainWordChar c = false

def pairs (before after : List Char) : List Char → List (List Char × List Char) → List WordPair
  | _, [] => []
  | first, (gap, second) :: more =>
    ⟨before, first, gap, second, tail more ++ after⟩ ::
      pairs (before ++ (first ++ gap)) after second more

theorem length_pairs (before after first : List Char) (more : List (List Char × List Char)) :
    (pairs before after first more).length = more.length := by
  induction more generalizing before first with
  | nil => rfl
  | cons next more ih => rw [pairs, List.length_cons, ih, List.length_cons]

variable {first gap second : List Char} {more : List (List Char × List Char)}

theorem tail_cons : tail ((gap, second) :: more) = gap ++ (second ++ tail more) := by
  rw [tail, List.flatMap_cons, ← tail, List.append_assoc]

namespace StandsBetween

/-- No character of a gap belongs to a word. -/
theorem clear (stands : StandsBetween ⟨first, (gap, second) :: more⟩ before after) :
    ∀ c ∈ gap, isPlainWordChar c = false := by
  intro c inside
  have blank := (stands.gaps gap List.mem_cons_self).2
  exact isPlainWordChar_of_isBlank (List.all_eq_true.mp blank c inside)

/-- Without its first word a row is still one. -/
theorem next (stands : StandsBetween ⟨first, (gap, second) :: more⟩ before after) :
    StandsBetween ⟨second, more⟩ (before ++ (first ++ gap)) after where
  words := (List.forall_mem_cons.mp stands.words).2
  same w member := by
    have here : first.map Char.toLower = second.map Char.toLower :=
      beq_iff_eq.mp (stands.same second List.mem_cons_self)
    rw [Unicode.eqIgnoringAsciiCase, ← here]
    exact stands.same w (List.mem_cons_of_mem _ member)
  gaps := (List.forall_mem_cons.mp stands.gaps).2
  front c last := by
    have some := (stands.gaps gap List.mem_cons_self).1
    rw [← List.append_assoc, List.getLast?_append_of_ne_nil _ some] at last
    exact stands.clear c (List.mem_of_getLast? last)
  back := stands.back

theorem head?_tail (stands : StandsBetween ⟨first, more⟩ before after) :
    ∀ c ∈ (tail more ++ after).head?, isPlainWordChar c = false := by
  intro c next
  cases more with
  | nil => exact stands.back c next
  | cons step more =>
    obtain ⟨gap, second⟩ := step
    obtain ⟨d, gap, rfl⟩ := List.exists_cons_of_ne_nil (stands.gaps gap List.mem_cons_self).1
    obtain rfl : d = c := by simpa [tail_cons] using next
    exact stands.clear d List.mem_cons_self

theorem isRun (stands : StandsBetween ⟨first, more⟩ before after)
    (split : line = before ++ (first ++ (tail more ++ after))) :
    Span.IsRun isPlainWordChar line ⟨before, first, tail more ++ after⟩ :=
  have word := stands.words first List.mem_cons_self
  ⟨split, word.1, word.2, stands.front, stands.head?_tail⟩

/-- The neighbouring words of a row are repeated. -/
theorem of_mem_pairs (stands : StandsBetween ⟨first, more⟩ before after)
    (split : line = before ++ (first ++ (tail more ++ after))) (member : p ∈ pairs before after first more) :
    p.StandsIn line ∧ p.repeats = true ∧ (∃ x, p.before = before ++ x) ∧ ∃ z, p.after = z ++ after := by
  induction more generalizing before first with
  | nil => cases member
  | cons step more ih =>
    obtain ⟨gap, second⟩ := step
    rw [tail_cons] at split
    have split' : line = before ++ (first ++ gap) ++ (second ++ (tail more ++ after)) := by
      simpa using split
    rcases List.mem_cons.mp member with rfl | later
    · refine ⟨⟨?_, stands.next.isRun split', stands.clear⟩, ?_, ⟨[], by simp⟩, tail more, rfl⟩
      · simpa [tail_cons, WordPair.firstSpan] using stands.isRun (by simpa [tail_cons] using split)
      · rw [WordPair.repeats, Bool.and_eq_true]
        exact ⟨stands.same second List.mem_cons_self, (stands.gaps gap List.mem_cons_self).2⟩
    · obtain ⟨standsIn, repeats, ⟨x, starts⟩, stops⟩ := ih stands.next split' later
      exact ⟨standsIn, repeats, ⟨first ++ (gap ++ x), by simpa using starts⟩, stops⟩

/-- A word that does not start before a row is its first one or starts behind that. -/
theorem first_or_later (stands : StandsBetween ⟨first, more⟩ before after)
    (split : line = before ++ (first ++ (tail more ++ after))) (run : a.IsRun isPlainWordChar line)
    (starts : ∃ x, a.before = before ++ x) :
    a = ⟨before, first, tail more ++ after⟩ ∨ ∃ y, a.before = before ++ (first ++ y) := by
  have word := (stands.words first List.mem_cons_self).2
  have split' : line = before ++ ([] ++ (first ++ (tail more ++ after))) := split
  simpa using run.first_or_later split' (by simp) word stands.head?_tail starts

/-- In a row of one word there is no room for two. -/
theorem not_standsIn_single (stands : StandsBetween ⟨first, []⟩ before after)
    (split : line = before ++ (first ++ after)) (standsIn : p.StandsIn line)
    (starts : ∃ x, p.before = before ++ x) (stops : ∃ z, p.after = z ++ after) : False := by
  obtain ⟨z, behind⟩ := stops
  have long := List.length_pos_iff.mpr standsIn.first.some
  have long' := List.length_pos_iff.mpr standsIn.second.some
  have total := congrArg List.length (split.symm.trans standsIn.first.split)
  simp only [WordPair.firstSpan, WordPair.secondSpan, behind, List.length_append] at total long long'
  rcases stands.first_or_later split standsIn.first starts with same | ⟨y, later⟩
  · have words := congrArg (fun a : Span => a.before.length + a.text.length) same
    simp only [WordPair.firstSpan] at words
    omega
  · have apart := congrArg List.length later
    simp only [WordPair.firstSpan, List.length_append] at apart
    omega

/-- A word behind the first word of a row is the second one or starts behind that. -/
theorem second_or_later (stands : StandsBetween ⟨first, (gap, second) :: more⟩ before after)
    (split : line = before ++ first ++ (gap ++ (second ++ (tail more ++ after))))
    (run : a.IsRun isPlainWordChar line) (starts : ∃ x, a.before = before ++ first ++ x) :
    a = ⟨before ++ first ++ gap, second, tail more ++ after⟩ ∨
      ∃ y, a.before = before ++ first ++ (gap ++ (second ++ y)) :=
  run.first_or_later split stands.clear (stands.next.words second List.mem_cons_self).2
    stands.next.head?_tail starts

/-- Two neighbours, the first of which is the first word of a row, are the first pair of it. -/
theorem eq_first_pair (stands : StandsBetween ⟨first, (gap, second) :: more⟩ before after)
    (split : line = before ++ first ++ (gap ++ (second ++ (tail more ++ after))))
    (standsIn : p.StandsIn line) (same : p.before = before ∧ p.first = first) :
    p = ⟨before, first, gap, second, tail more ++ after⟩ := by
  have starts : ∃ x, p.secondSpan.before = before ++ first ++ x :=
    ⟨p.gap, by simp [WordPair.secondSpan, same]⟩
  rcases stands.second_or_later split standsIn.second starts with same' | ⟨y, later⟩
  · obtain ⟨b, f, g, s, a⟩ := p
    obtain ⟨rfl, rfl⟩ := same
    obtain ⟨rfl, rfl, rfl⟩ : g = gap ∧ s = second ∧ a = tail more ++ after := by
      simpa [WordPair.secondSpan] using same'
    rfl
  · have between : p.gap = gap ++ (second ++ y) := by
      simpa [WordPair.secondSpan, same] using later
    have word := stands.next.words second List.mem_cons_self
    obtain ⟨c, t, rfl⟩ := List.exists_cons_of_ne_nil word.1
    have absent := standsIn.apart c (by simp [between])
    rw [word.2 c List.mem_cons_self] at absent
    cases absent

/-- Neighbouring words that lie in a row are among those of the row. -/
theorem mem_pairs (stands : StandsBetween ⟨first, more⟩ before after)
    (split : line = before ++ (first ++ (tail more ++ after))) (standsIn : p.StandsIn line)
    (starts : ∃ x, p.before = before ++ x) (stops : ∃ z, p.after = z ++ after) :
    p ∈ pairs before after first more := by
  induction more generalizing before first with
  | nil => exact (stands.not_standsIn_single split standsIn starts stops).elim
  | cons step more ih =>
    obtain ⟨gap, second⟩ := step
    have split' : line = before ++ first ++ (gap ++ (second ++ (tail more ++ after))) := by
      simpa [tail_cons] using split
    rcases stands.first_or_later split standsIn.first starts with same | ⟨y, later⟩
    · have first' : p.before = before ∧ p.first = first :=
        ⟨congrArg Span.before same, congrArg Span.text same⟩
      rw [stands.eq_first_pair split' standsIn first']
      exact List.mem_cons_self
    · have starts' : ∃ x, p.firstSpan.before = before ++ first ++ x := ⟨y, by simpa using later⟩
      have next : ∃ x, p.before = before ++ (first ++ gap) ++ x := by
        rcases stands.second_or_later split' standsIn.first starts' with same | ⟨y, later⟩
        · exact ⟨[], by simpa [WordPair.firstSpan] using congrArg Span.before same⟩
        · exact ⟨second ++ y, by simpa [WordPair.firstSpan] using later⟩
      exact List.mem_cons_of_mem _ (ih stands.next (by simpa using split') next)

theorem pairwise_pairs (stands : StandsBetween ⟨first, more⟩ before after) :
    (pairs before after first more).Pairwise fun p q => byteLength p.before < byteLength q.before := by
  induction more generalizing before first with
  | nil => exact .nil
  | cons step more ih =>
    obtain ⟨gap, second⟩ := step
    refine List.pairwise_cons.mpr ⟨fun q member => ?_, ih stands.next⟩
    obtain ⟨-, -, ⟨x, starts⟩, -⟩ := stands.next.of_mem_pairs rfl member
    have := byteLength_pos (stands.words first List.mem_cons_self).1
    simp only [starts, byteLength_append]
    omega

end StandsBetween

end WordRow

/-! ### The whole line -/

/-- Of two texts at the start of a line, the one with fewer bytes is a part of the other. -/
theorem exists_append_of_byteLength_le {u v r r' : List Char} (same : u ++ r = v ++ r')
    (le : byteLength u ≤ byteLength v) : ∃ x, v = u ++ x ∧ r = x ++ r' := by
  rcases List.append_eq_append_iff.mp same with ⟨x, rfl, rfl⟩ | ⟨x, rfl, rfl⟩
  · exact ⟨x, rfl, rfl⟩
  · have nothing : x = [] := by
      by_contra more
      have := byteLength_pos more
      rw [byteLength_append] at le
      omega
    subst nothing
    exact ⟨[], by simp, by simp⟩

def Suggestion.within (start stop : Nat) (s : Suggestion) : Bool :=
  start ≤ s.offset && s.offset + s.length ≤ stop

theorem within_suggestion_iff {row : List Char} (standsIn : p.StandsIn line)
    (split : line = before ++ (row ++ after)) :
    p.suggestion.within (byteLength before) (byteLength (before ++ row)) = true ↔
      (∃ x, p.before = before ++ x) ∧ ∃ z, p.after = z ++ after := by
  have whole : p.before ++ (p.text ++ p.after) = line := by
    rw [standsIn.first.split]
    simp [WordPair.firstSpan, WordPair.text]
  rw [split] at whole
  rw [Suggestion.within, Bool.and_eq_true, decide_eq_true_eq, decide_eq_true_eq]
  simp only [WordPair.suggestion]
  rw [← byteLength_append]
  constructor
  · rintro ⟨starts, stops⟩
    obtain ⟨x, eq, -⟩ := exists_append_of_byteLength_le whole.symm starts
    have ends : p.before ++ p.text ++ p.after = before ++ row ++ after := by simpa using whole
    obtain ⟨z, -, eq'⟩ := exists_append_of_byteLength_le ends stops
    exact ⟨⟨x, eq⟩, z, eq'⟩
  · rintro ⟨⟨x, eq⟩, z, eq'⟩
    have total := congrArg byteLength whole
    simp only [eq, eq', byteLength_append] at total ⊢
    omega

/-- A row makes one suggestion less than it has words. -/
theorem length_within_row {row : WordRow} (stands : row.StandsBetween before after)
    (split : line = before ++ (row.text ++ after)) :
    ((repeatedWords line).filter
      (Suggestion.within (byteLength before) (byteLength (before ++ row.text)))).length =
        row.more.length := by
  obtain ⟨pairs, arePairs, listed⟩ := exists_arePairs line
  have split' : line = before ++ (row.first ++ (WordRow.tail row.more ++ after)) := by
    simpa [WordRow.text] using split
  have members : (pairs.filter WordPair.repeats).filter (fun p => p.suggestion.within
      (byteLength before) (byteLength (before ++ row.text))) =
        WordRow.pairs before after row.first row.more := by
    refine eq_of_pairwise_of_mem_iff (fun p q less => Nat.not_lt_of_gt less)
      ((arePairs.ordered.filter _).filter _) stands.pairwise_pairs fun p => ?_
    rw [List.mem_filter, List.mem_filter, arePairs.mem_iff]
    constructor
    · rintro ⟨⟨standsIn, -⟩, within⟩
      obtain ⟨starts, stops⟩ := (within_suggestion_iff standsIn split).mp within
      exact stands.mem_pairs split' standsIn starts stops
    · intro member
      obtain ⟨standsIn, repeats, starts, stops⟩ := stands.of_mem_pairs split' member
      exact ⟨⟨standsIn, repeats⟩, (within_suggestion_iff standsIn split).mpr ⟨starts, stops⟩⟩
  rw [listed, List.filter_map, List.length_map, ← WordRow.length_pairs before after row.first row.more,
    ← members]
  rfl

/-- In a line the suggestions for repeated words are, from left to right, one for each two
neighbouring words that are equal up to the case of ASCII letters and have nothing but blanks
between them; it starts at the first word, ends with the second one and quotes what it covers. So it
covers letters, apostrophes and blanks only, and a row of such words makes one suggestion less than
it has words. -/
theorem repeatedWords_finds_pairs (line : List Char) :
    (∃ pairs, ArePairs line pairs ∧
      repeatedWords line = (pairs.filter WordPair.repeats).map WordPair.suggestion) ∧
    (∀ s ∈ repeatedWords line, ∃ before text after, s.Marks line before text after ∧
      s.reason = inQuotes text ++ " is repeated" ∧
      ∀ c ∈ text, Unicode.isAsciiLetter c = true ∨ c = '\'' ∨ isBlank c = true) ∧
    ∀ (row : WordRow) (before after : List Char), row.StandsBetween before after →
      line = before ++ (row.text ++ after) →
      ((repeatedWords line).filter
        (Suggestion.within (byteLength before) (byteLength (before ++ row.text)))).length =
          row.more.length := by
  obtain ⟨pairs, arePairs, listed⟩ := exists_arePairs line
  refine ⟨⟨pairs, arePairs, listed⟩, fun s member => ?_, fun row before after stands split =>
    length_within_row stands split⟩
  rw [listed, List.mem_map] at member
  obtain ⟨p, member, rfl⟩ := member
  rw [List.mem_filter, arePairs.mem_iff] at member
  obtain ⟨standsIn, repeats⟩ := member
  have some : p.text ≠ [] := fun none => standsIn.first.some (List.append_eq_nil_iff.mp none).1
  have split : line = p.before ++ (p.text ++ p.after) := by
    rw [standsIn.first.split]
    simp [WordPair.firstSpan, WordPair.text]
  refine ⟨p.before, p.text, p.after, ⟨split, some, rfl, rfl⟩, rfl, fun c inside => ?_⟩
  have ofWord (word : isPlainWordChar c = true) :
      Unicode.isAsciiLetter c = true ∨ c = '\'' ∨ isBlank c = true := by
    rw [isPlainWordChar, Bool.or_eq_true, beq_iff_eq] at word
    exact word.imp_right .inl
  rw [WordPair.repeats, Bool.and_eq_true] at repeats
  rw [WordPair.text, List.mem_append, List.mem_append] at inside
  rcases inside with first | between | second
  · exact ofWord (standsIn.first.inside c first)
  · exact .inr (.inr (List.all_eq_true.mp repeats.2 c between))
  · exact ofWord (standsIn.second.inside c second)

/-- Three words in a row, in mixed case, make two suggestions. The fourth one is behind a comma. -/
theorem repeatedWords_of_three_in_a_row :
    ((repeatedWords "The the  THE, the".toList).filter (Suggestion.within 0 12)).length = 2 := by
  have words : ∀ w ∈ ["The".toList, "the".toList, "THE".toList],
      w ≠ [] ∧ w.all isPlainWordChar = true := by decide
  have stands : WordRow.StandsBetween
      ⟨"The".toList, [([' '], "the".toList), ([' ', ' '], "THE".toList)]⟩ [] ", the".toList :=
    ⟨fun w member => ⟨(words w member).1, List.all_eq_true.mp (words w member).2⟩, by decide,
      by decide, by simp, by rintro c ⟨⟩; rfl⟩
  exact (repeatedWords_finds_pairs "The the  THE, the".toList).2.2 _ _ _ stands rfl

end DocLint.Prose
