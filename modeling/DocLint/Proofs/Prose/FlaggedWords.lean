import DocLint.Proofs.Prose.Runs
import DocLint.Proofs.Unicode.LatinVariants
import DocLint.Prose.Suggestion

/-!
# Flagged words

A list of words of ASCII letters flags the words of a line that are in it, in any case: each of them
makes one suggestion, and a word that only contains or continues a listed one makes none. The words
of a line are its runs of word characters. That the case variants of ASCII letters are word
characters too is what lets no match end in the middle of a word.
-/
namespace DocLint.Prose

open Pattern Text

/-- A text is another one up to case, character by character. -/
def equalsAnyCase : List Char → List Char → Bool
  | [], [] => true
  | e :: entry, x :: text => (Unicode.caseVariants x).contains e && equalsAnyCase entry text
  | _, _ => false

def isListed (words : List String) (text : List Char) : Bool :=
  words.any fun entry => equalsAnyCase entry.toList text

def AreLetters (words : List String) : Prop :=
  ∀ entry ∈ words, entry.toList ≠ [] ∧ ∀ e ∈ entry.toList, Unicode.isAsciiLetter e = true

variable {words : List String} {entry v w r line : List Char} {s : Site} {c d : Cursor}
  {p : Pattern} {ps : List Pattern}

theorem equalsAnyCase_cons {e x : Char} : equalsAnyCase (e :: entry) (x :: v) = true ↔
    e ∈ Unicode.caseVariants x ∧ equalsAnyCase entry v = true := by
  rw [equalsAnyCase, Bool.and_eq_true, List.contains_iff_mem]

theorem areLetters_of_all (checked : words.all (fun entry =>
    !entry.toList.isEmpty && entry.toList.all Unicode.isAsciiLetter) = true) :
    AreLetters words := by
  intro entry member
  have both := List.all_eq_true.mp checked entry member
  rw [Bool.and_eq_true, List.all_eq_true] at both
  exact ⟨by simpa using both.1, both.2⟩

/-- What is listed is a word. -/
theorem word_of_isListed (letters : AreLetters words) (listed : isListed words v = true) :
    v ≠ [] ∧ ∀ x ∈ v, Unicode.isWordChar x = true := by
  obtain ⟨entry, member, same⟩ := List.any_eq_true.mp listed
  obtain ⟨some, inside⟩ := letters entry member
  generalize entry.toList = entry at some inside same
  constructor
  · rintro rfl
    cases entry with
    | nil => exact some rfl
    | cons e entry => cases same
  · clear some listed
    induction entry generalizing v with
    | nil =>
      cases v with
      | nil => simp
      | cons x v => cases same
    | cons e entry ih =>
      cases v with
      | nil => cases same
      | cons x v =>
        obtain ⟨first, rest⟩ := List.forall_mem_cons.mp inside
        obtain ⟨variant, same⟩ := equalsAnyCase_cons.mp same
        exact List.forall_mem_cons.mpr
          ⟨Unicode.isWordChar_of_mem_caseVariants variant first, ih rest same⟩

/-! ### Where a match ends -/

theorem ends_sequence_cons :
    (Pattern.sequence (p :: ps)).ends c = (p.ends c).flatMap (Pattern.sequence ps).ends := by
  cases ps with
  | nil => exact (List.flatMap_singleton' _).symm
  | cons q ps => rfl

theorem mem_ends_choice : d ∈ (choice ps).ends c ↔ ∃ p ∈ ps, d ∈ p.ends c := by
  induction ps with
  | nil =>
    have never : (oneOf CharSet.none).ends c = [] := startsIn_oneOf _ c fun _ _ _ => rfl
    simp [choice, never]
  | cons p ps ih =>
    cases ps with
    | nil => simp [choice]
    | cons q ps =>
      have both : (choice (p :: q :: ps)).ends c = p.ends c ++ (choice (q :: ps)).ends c := rfl
      rw [both, List.mem_append, ih]
      simp

theorem fold_one (e x : Char) : (CharSet.one e).fold x = true ↔ e ∈ Unicode.caseVariants x := by
  simp [CharSet.fold, CharSet.one]

theorem mem_ends_caseless (word : String) : d ∈ (caseless word).ends c ↔
    ∃ v r, c.rest = v ++ r ∧ equalsAnyCase word.toList v = true ∧ d = c.past v := by
  rw [caseless]
  induction word.toList generalizing c with
  | nil =>
    rw [List.map_nil, Pattern.sequence, ends, List.mem_singleton]
    constructor
    · rintro rfl
      exact ⟨[], d.rest, rfl, rfl, (Cursor.past_nil d).symm⟩
    · rintro ⟨v, r, -, same, rfl⟩
      cases v with
      | nil => exact Cursor.past_nil c
      | cons x v => cases same
  | cons e entry ih =>
    rw [List.map_cons, ends_sequence_cons, List.mem_flatMap]
    constructor
    · rintro ⟨f, first, later⟩
      obtain ⟨x, r, rest, variant, rfl⟩ := mem_ends_oneOf.mp first
      obtain ⟨v, r', rest', same, rfl⟩ := ih.mp later
      rw [Cursor.rest_past (u := [x]) rest] at rest'
      refine ⟨x :: v, r', by rw [rest, rest', List.cons_append], ?_, Cursor.past_past c [x] v⟩
      exact equalsAnyCase_cons.mpr ⟨(fold_one e x).mp variant, same⟩
    · rintro ⟨v, r, rest, same, rfl⟩
      cases v with
      | nil => cases same
      | cons x v =>
        obtain ⟨variant, same⟩ := equalsAnyCase_cons.mp same
        refine ⟨c.past [x], mem_ends_oneOf.mpr ⟨x, v ++ r, rest, (fold_one e x).mpr variant, rfl⟩, ?_⟩
        exact ih.mpr ⟨v, r, Cursor.rest_past (u := [x]) rest, same, (Cursor.past_past c [x] v).symm⟩

/-- A word starts or ends at the cursor. -/
def AtBoundary (c : Cursor) : Prop :=
  c.before.any Unicode.isWordChar ≠ c.rest.head?.any Unicode.isWordChar

theorem mem_ends_boundary : d ∈ boundary.ends c ↔ AtBoundary c ∧ d = c := by
  have holds : (Anchor.wordBoundary Unicode.isWordChar).holds c.before c.rest.head? = true ↔
      AtBoundary c := bne_iff_ne
  rw [boundary, mem_ends_anchor, holds]

theorem mem_ends_anyOf : d ∈ (anyOf words).ends c ↔
    ∃ v r, c.rest = v ++ r ∧ isListed words v = true ∧ d = c.past v ∧ AtBoundary c ∧ AtBoundary d := by
  have split : (anyOf words).ends c = (boundary.ends c).flatMap fun e =>
      ((choice (words.map caseless)).ends e).flatMap boundary.ends := rfl
  simp only [split, List.mem_flatMap, mem_ends_boundary, mem_ends_choice, List.mem_map, isListed,
    List.any_eq_true]
  constructor
  · rintro ⟨e, ⟨start, rfl⟩, f, ⟨_, ⟨entry, member, rfl⟩, ended⟩, stop, rfl⟩
    obtain ⟨v, r, rest, same, rfl⟩ := (mem_ends_caseless entry).mp ended
    exact ⟨v, r, rest, ⟨entry, member, same⟩, rfl, start, stop⟩
  · rintro ⟨v, r, rest, ⟨entry, member, same⟩, rfl, start, stop⟩
    have ended := (mem_ends_caseless entry).mpr ⟨v, r, rest, same, rfl⟩
    exact ⟨c, ⟨start, rfl⟩, _, ⟨_, ⟨entry, member, rfl⟩, ended⟩, stop, rfl⟩

/-! ### Whole words -/

theorem atBoundary_start (run : RunAt Unicode.isWordChar s w r) : AtBoundary (.ofSite s) := by
  obtain ⟨x, w, rfl⟩ := List.exists_cons_of_ne_nil run.some
  have next : s.rest.head?.any Unicode.isWordChar = true := by
    simpa [run.rest] using run.inside x List.mem_cons_self
  have previous : s.before.any Unicode.isWordChar = false := by
    cases before : s.before with
    | none => rfl
    | some x => exact run.front x before
  simp [AtBoundary, Cursor.ofSite, next, previous]

/-- Behind a text of word characters, a word ends where no further one follows. -/
theorem atBoundary_past (rest : c.rest = v ++ r) (some : v ≠ [])
    (inside : ∀ x ∈ v, Unicode.isWordChar x = true) :
    AtBoundary (c.past v) ↔ ∀ x ∈ r.head?, Unicode.isWordChar x = false := by
  obtain ⟨x, last⟩ := Option.ne_none_iff_exists'.mp (mt List.getLast?_eq_none_iff.mp some)
  have previous : (c.past v).before.any Unicode.isWordChar = true := by
    simpa [Cursor.past, Site.past, last] using inside x (List.mem_of_getLast? last)
  rw [AtBoundary, previous, Cursor.rest_past rest]
  cases r.head? <;> simp

/-- At the start of a word nothing but the whole word matches. -/
theorem mem_ends_of_runAt (letters : AreLetters words) (run : RunAt Unicode.isWordChar s w r) :
    d ∈ (anyOf words).ends (.ofSite s) ↔ isListed words w = true ∧ d = (Cursor.ofSite s).past w := by
  rw [mem_ends_anyOf]
  constructor
  · rintro ⟨v, r', rest, listed, rfl, -, stop⟩
    obtain ⟨some, inside⟩ := word_of_isListed letters listed
    have back := (atBoundary_past rest some inside).mp stop
    obtain ⟨rfl, -⟩ := run_unique run.inside run.back inside back (run.rest.symm.trans rest)
    exact ⟨listed, rfl⟩
  · rintro ⟨listed, rfl⟩
    exact ⟨w, r, run.rest, listed, rfl, atBoundary_start run,
      (atBoundary_past run.rest run.some run.inside).mpr run.back⟩

/-- Inside a word nothing matches. -/
theorem ends_of_inside (run : RunAt Unicode.isWordChar s w r) {u : List Char} (split : w = u ++ v)
    (begun : u ≠ []) (more : v ≠ []) : (anyOf words).ends (.ofSite (s.past u)) = [] := by
  refine List.eq_nil_iff_forall_not_mem.mpr fun d member => ?_
  obtain ⟨-, -, -, -, -, start, -⟩ := mem_ends_anyOf.mp member
  obtain ⟨x, v, rfl⟩ := List.exists_cons_of_ne_nil more
  have rest : (Cursor.ofSite s).rest = u ++ (x :: v ++ r) := by
    simpa [split] using run.rest
  have inside : ∀ y ∈ u, Unicode.isWordChar y = true := fun y member =>
    run.inside y (by simp [split, member])
  have outside := (atBoundary_past rest begun inside).mp start x rfl
  rw [run.inside x (by simp [split])] at outside
  cases outside

theorem anyOf_listsRuns (letters : AreLetters words) :
    (anyOf words).ListsRuns Unicode.isWordChar (isListed words) where
  starts c outside := by
    refine List.eq_nil_iff_forall_not_mem.mpr fun d member => ?_
    obtain ⟨v, r, rest, listed, -⟩ := mem_ends_anyOf.mp member
    obtain ⟨some, inside⟩ := word_of_isListed letters listed
    obtain ⟨x, v, rfl⟩ := List.exists_cons_of_ne_nil some
    have absent := outside x (v ++ r) rest
    rw [inside x List.mem_cons_self] at absent
    cases absent
  found {s w r} run listed := by
    have whole : ∀ d, d ∈ (anyOf words).ends (.ofSite s) ↔
        isListed words w = true ∧ d = (Cursor.ofSite s).past w := fun d => mem_ends_of_runAt letters run
    rw [matchAt?]
    cases ended : (anyOf words).ends (.ofSite s) with
    | nil =>
      have absent := (whole _).mpr ⟨listed, rfl⟩
      rw [ended] at absent
      cases absent
    | cons e more =>
      refine ⟨_, rfl, ?_⟩
      obtain ⟨-, rfl⟩ := (whole e).mp (ended ▸ List.mem_cons_self)
      rfl
  missed {s w r} run unlisted u v split more := by
    rw [matchAt?_eq_none_iff]
    cases u with
    | cons x u => exact ends_of_inside run split (List.cons_ne_nil x u) more
    | nil =>
      rw [Site.past_nil]
      refine List.eq_nil_iff_forall_not_mem.mpr fun d member => ?_
      obtain ⟨listed, -⟩ := (mem_ends_of_runAt letters run).mp member
      rw [unlisted] at listed
      cases listed

/-! ### The suggestions -/

/-- The listed words of a line, from left to right. -/
structure AreFlagged (words : List String) (line : List Char) (flagged : List Span) : Prop where
  mem_iff : ∀ a, a ∈ flagged ↔ a.IsRun Unicode.isWordChar line ∧ isListed words a.text = true
  ordered : flagged.Pairwise fun a b => byteLength a.before < byteLength b.before

def flag (verdict : String) (a : Span) : Suggestion :=
  ⟨byteLength a.before, byteLength a.text, inQuotes a.text ++ verdict⟩

theorem suggestionAt_captureOf {a : Span} (run : a.IsRun Unicode.isWordChar line)
    (verdict : String) :
    Suggestion.at (captureOf line a) (inQuotes (captureOf line a).text ++ verdict) =
      flag verdict a := by
  have text : (captureOf line a).text = a.text := Site.textTo_past_past run.split
  rw [text, flag, Suggestion.at, Capture.length]
  simp only [captureOf, Site.past, Site.first, byteLength_append, Nat.zero_add,
    Nat.add_sub_cancel_left]

theorem exists_areFlagged (letters : AreLetters words) (verdict : String) (line : List Char) :
    ∃ flagged, AreFlagged words line flagged ∧
      suggestMatches (anyOf words) verdict line = flagged.map (flag verdict) := by
  obtain ⟨runs, cut⟩ := exists_runsFrom Unicode.isWordChar [] line
  have isRun (a : Span) : a ∈ runs ↔ a.IsRun Unicode.isWordChar line := by
    rw [cut.mem_iff rfl (.inl (by simp))]
    simp
  refine ⟨runs.filter (isListed words ·.text), ⟨fun a => ?_, cut.ordered.filter _⟩, ?_⟩
  · rw [List.mem_filter, isRun]
  · have covers := (anyOf_listsRuns letters).map_allMatches cut
    have split : suggestMatches (anyOf words) verdict line =
        (((anyOf words).allMatches line).map (·.whole)).map fun part =>
          .at part (inQuotes part.text ++ verdict) := by
      rw [List.map_map]
      rfl
    rw [split, covers, List.map_map]
    refine List.map_congr_left fun a member => ?_
    exact suggestionAt_captureOf ((isRun a).mp (List.mem_filter.mp member).1) verdict

/-- A heuristic flags the words of a list and leaves all others alone. -/
structure Heuristic.FlagsWords (h : Heuristic) (words : List String) (verdict : String) : Prop where
  listed : ∀ line, ∃ flagged, AreFlagged words line flagged ∧
    h.suggest line = flagged.map (flag verdict)
  others : ∀ (line : List Char) (a : Span), a.IsRun Unicode.isWordChar line →
    isListed words a.text = false →
      ∀ s ∈ h.suggest line, s.offset + s.length ≤ byteLength a.before ∨
        byteLength a.before + byteLength a.text ≤ s.offset

theorem flagsWords_suggestMatches (letters : AreLetters words) (key verdict : String) :
    Heuristic.FlagsWords ⟨key, suggestMatches (anyOf words) verdict⟩ words verdict where
  listed := exists_areFlagged letters verdict
  others line a run unlisted s suggested := by
    obtain ⟨flagged, areFlagged, eq⟩ := exists_areFlagged letters verdict line
    replace suggested : s ∈ flagged.map (flag verdict) := eq ▸ suggested
    obtain ⟨b, member, rfl⟩ := List.mem_map.mp suggested
    obtain ⟨other, listed⟩ := (areFlagged.mem_iff b).mp member
    have different : b ≠ a := by
      rintro rfl
      rw [unlisted] at listed
      cases listed
    exact other.apart run different

/-- Weasel words and weak adverbs are flagged wherever they stand as words, and nowhere else. -/
theorem weaselWords_and_weakAdverbs_flagged :
    (∃ h, heuristics.filter (·.key == "weasel") = [h] ∧
      h.FlagsWords weaselWords " is a weasel word") ∧
    ∃ h, heuristics.filter (·.key == "adverb") = [h] ∧
      h.FlagsWords weakAdverbs " can weaken meaning" := by
  have weasel : AreLetters weaselWords := areLetters_of_all (by decide +kernel)
  have adverb : AreLetters weakAdverbs := areLetters_of_all (by decide +kernel)
  exact ⟨⟨_, rfl, flagsWords_suggestMatches weasel _ _⟩,
    ⟨_, rfl, flagsWords_suggestMatches adverb _ _⟩⟩

end DocLint.Prose
