import DocLint.Proofs.Markdown.Marks
import Mathlib.Data.List.Chain

/-!
# Occurrences of emphasis

What the marks of strong, plain and struck text can start with, and what stands for their plain
occurrences. Strong text takes no notice of the characters around it; underscored text has to stand
between characters that belong to no word, and its occurrence takes them up.
-/
namespace DocLint.Markdown

open Pattern

variable {s : Site} {c : Cursor} {w u r : List Char} {x : Char}

/-! ### Strong text -/

/-- The same character twice. -/
theorem ends_twice (rest : c.rest = x :: x :: r) :
    (seq (char x) (char x)).ends c = [c.past [x, x]] := by
  rw [ends_seq_char rest, ends_char (Cursor.rest_past (u := [x]) rest), Cursor.past_past]
  rfl

theorem ends_twice_of_single (rest : c.rest = x :: r) (apart : r.head? ≠ some x) :
    (seq (char x) (char x)).ends c = [] := by
  rw [ends_seq_char rest]
  refine startsIn_char x _ fun y r' follows => ?_
  rw [Cursor.rest_past (u := [x]) rest] at follows
  rw [one_eq_false_iff]
  rintro rfl
  exact apart (by rw [follows]; rfl)

theorem strongMarker_startsIn : strongMarker.StartsIn (CharSet.ofList ['*', '_']) :=
  ((startsIn_char '*').seq.alt (startsIn_char '_').seq).mono fun y inside => by
    simpa [CharSet.union, CharSet.one, CharSet.ofList] using inside

theorem ends_strongMarker (mark : x ∈ ['*', '_']) (rest : c.rest = x :: x :: r) :
    strongMarker.ends c = [c.past [x, x]] := by
  have stars : (literal "**").StartsIn (CharSet.one '*') := (startsIn_char '*').seq
  have underscores : (literal "__").StartsIn (CharSet.one '_') := (startsIn_char '_').seq
  rw [strongMarker, ends_alt]
  simp only [List.mem_cons, List.not_mem_nil, or_false] at mark
  rcases mark with rfl | rfl
  · rw [underscores.ends_eq_nil rest (by decide), List.append_nil]
    exact ends_twice rest
  · rw [stars.ends_eq_nil rest (by decide), List.nil_append]
    exact ends_twice rest

theorem ends_strongMarker_of_single (rest : c.rest = x :: r) (apart : r.head? ≠ some x) :
    strongMarker.ends c = [] := by
  have single : ∀ y, (seq (char y) (char y)).ends c = [] := by
    intro y
    by_cases same : x = y
    · subst same
      exact ends_twice_of_single rest apart
    · exact (startsIn_char y).seq.ends_eq_nil rest (one_eq_false_iff.mpr same)
  calc strongMarker.ends c
      = (seq (char '*') (char '*')).ends c ++ (seq (char '_') (char '_')).ends c := rfl
    _ = [] := by rw [single, single, List.append_nil]

theorem strong_startsIn : strong.pattern.StartsIn (CharSet.ofList ['*', '_']) :=
  strongMarker_startsIn.seq

theorem strong_nothing_of_single (rest : s.rest = x :: r) (apart : r.head? ≠ some x) :
    strong.pattern.matchAt? s = none := by
  rw [matchAt?_eq_none_iff]
  exact congrArg (List.flatMap _) (ends_strongMarker_of_single (c := .ofSite s) rest apart)

/-- After a marker the text goes on up to the next star or underscore, where a marker has to be. -/
theorem ends_strong (mark : x ∈ ['*', '_']) (rest : s.rest = x :: x :: (w ++ r))
    (inside : ∀ y ∈ w, y ∉ ['*', '_']) (stops : ∀ y r', r = y :: r' → y ∈ ['*', '_']) :
    strong.pattern.ends (.ofSite s) =
      if 1 ≤ w.length then strongMarker.ends ((Cursor.ofSite s).holding [x, x] w []) else [] := by
  have opened := Cursor.rest_past (c := .ofSite s) (u := [x, x]) rest
  have marked := ends_strongMarker (c := .ofSite s) mark rest
  calc strong.pattern.ends (.ofSite s)
      = (seq (group 1 (run (CharSet.except ['*', '_']) 1 none true)) strongMarker).ends
          ((Cursor.ofSite s).past [x, x]) := ends_seq_of_single marked
    _ = if 1 ≤ w.length then strongMarker.ends ((Cursor.ofSite s).holding [x, x] w [])
          else [] := by
        rw [ends_seq_group_run strongMarker_startsIn _ opened _ _, Cursor.remember_past]
        · simp
        · simpa using inside
        · simpa using stops

theorem strong_yields {y : Char} (mark : x ∈ ['*', '_']) (also : y ∈ ['*', '_'])
    (rest : s.rest = [x, x] ++ (w ++ ([y, y] ++ r))) (more : w ≠ [])
    (inside : ∀ z ∈ w, z ∉ ['*', '_']) :
    strong.pattern.Yields strong.keep s ([x, x] ++ (w ++ [y, y])) w := by
  have closed := Cursor.rest_holding (c := .ofSite s) (b := []) rest
  refine yields_of_holding ?_ rest
  rw [ends_strong (w := w) (r := [y, y] ++ r) mark rest inside (by rintro z r' ⟨⟩; exact also),
    if_pos (Nat.succ_le_of_lt (List.length_pos_iff.mpr more)), ends_strongMarker also closed,
    Cursor.holding_past]
  rfl

/-! ### Text between stars -/

theorem starEmphasis_startsIn : starEmphasis.pattern.StartsIn (CharSet.one '*') :=
  (startsIn_char '*').seq

/-- A text up to a character, the first character of which is subject to more. -/
theorem ends_seq_group_first {y : Char} {set : CharSet} {index : Nat} {q : Pattern}
    (starts : q.StartsIn (CharSet.one y)) (rest : c.rest = x :: w ++ y :: r) (first : set x = true)
    (inside : y ∉ w) :
    (seq (group index (seq (oneOf set) (run (CharSet.except [y]) 0 none true))) q).ends c =
      q.ends (c.remember index (c.past (x :: w))) := by
  have opened := Cursor.rest_past (u := [x]) rest
  rw [ends_seq, ends_group, ends_seq_oneOf rest first, flatMap_remember_run starts (by simp) opened
    (except_of_mem inside) except_stops, if_pos (Nat.zero_le _), Cursor.past_past]
  rfl

theorem starEmphasis_yields (rest : s.rest = ['*'] ++ (w ++ (['*'] ++ r)))
    (inside : '*' ∉ w) (more : w ≠ []) (visible : ∀ x ∈ w.head?, Text.isBlank x = false) :
    starEmphasis.pattern.Yields starEmphasis.keep s (['*'] ++ (w ++ ['*'])) w := by
  obtain ⟨x, w, rfl⟩ := List.exists_cons_of_ne_nil more
  rw [List.mem_cons, not_or] at inside
  have opened := Cursor.rest_past (c := .ofSite s) (u := ['*']) rest
  have closed := Cursor.rest_holding (c := .ofSite s) (b := []) rest
  have first : (x != '*' && !Text.isBlank x) = true := by
    simp [visible x rfl, Ne.symm inside.1]
  refine yields_of_holding ?_ rest
  calc starEmphasis.pattern.ends (.ofSite s)
      = (seq (group 1 (seq (oneOf fun c => c != '*' && !Text.isBlank c)
          (run (CharSet.except ['*']) 0 none true))) (char '*')).ends
            ((Cursor.ofSite s).past ['*']) := ends_seq_char (c := .ofSite s) rest
    _ = (char '*').ends ((Cursor.ofSite s).holding ['*'] (x :: w) []) := by
        rw [ends_seq_group_first (startsIn_char '*') opened first inside.2, Cursor.remember_past]
    _ = [(Cursor.ofSite s).holding ['*'] (x :: w) ['*']] := by
        rw [ends_char closed, Cursor.holding_past]
        rfl

/-! ### Struck text -/

theorem strikethrough_startsIn : strikethrough.pattern.StartsIn (CharSet.one '~') :=
  (startsIn_char '~').seq.seq

theorem strikethrough_yields (rest : s.rest = ['~', '~'] ++ (w ++ (['~', '~'] ++ r)))
    (more : w ≠ []) (inside : '~' ∉ w) :
    strikethrough.pattern.Yields strikethrough.keep s (['~', '~'] ++ (w ++ ['~', '~'])) w := by
  have opened := Cursor.rest_past (c := .ofSite s) (u := ['~', '~']) rest
  have closed := Cursor.rest_holding (c := .ofSite s) (b := []) rest
  have marked := ends_twice (c := .ofSite s) rest
  refine yields_of_holding ?_ rest
  calc strikethrough.pattern.ends (.ofSite s)
      = (seq (group 1 (run (CharSet.except ['~']) 1 none true))
          (seq (char '~') (char '~'))).ends ((Cursor.ofSite s).past ['~', '~']) :=
        ends_seq_of_single marked
    _ = (seq (char '~') (char '~')).ends ((Cursor.ofSite s).holding ['~', '~'] w []) := by
        rw [ends_seq_group_run_until (startsIn_char '~').seq opened inside
          (Nat.succ_le_of_lt (List.length_pos_iff.mpr more)), Cursor.remember_past]
    _ = [(Cursor.ofSite s).holding ['~', '~'] w ['~', '~']] := by
        rw [ends_twice closed, Cursor.holding_past]
        rfl

/-! ### Text between underscores -/

def wordBreakBefore : Pattern := group 1 (alt start (oneOf (CharSet.others Unicode.isWordChar)))

def wordBreakAfter : Pattern := group 3 (alt (oneOf (CharSet.others Unicode.isWordChar)) stop)

/-- Underscored text from its first underscore on. -/
def underscored : Pattern :=
  seq (char '_') (seq (group 2 (seq (oneOf fun c => c != '_' && !Text.isBlank c)
    (run (CharSet.except ['_']) 0 none true))) (seq (char '_') wordBreakAfter))

theorem underscoreEmphasis_pattern :
    underscoreEmphasis.pattern = seq wordBreakBefore underscored := rfl

theorem underscored_startsIn : underscored.StartsIn (CharSet.one '_') := (startsIn_char '_').seq

theorem ends_wordBreakBefore (c : Cursor) :
    wordBreakBefore.ends c = ((if c.before.isNone then [c] else []) ++
      (oneOf (CharSet.others Unicode.isWordChar)).ends c).map (c.remember 1) := rfl

theorem ends_wordBreakAfter (after : ∀ z ∈ c.rest.head?, Unicode.isWordChar z = false) :
    wordBreakAfter.ends c = [c.remember 3 (c.past (c.rest.take 1))] := by
  have eq : wordBreakAfter.ends c = ((oneOf (CharSet.others Unicode.isWordChar)).ends c ++
      if c.rest.head?.isNone then [c] else []).map (c.remember 3) := rfl
  rw [eq]
  cases rest : c.rest with
  | nil => simp [ends_oneOf_of_nil rest]
  | cons z r =>
    have outside : CharSet.others Unicode.isWordChar z = true := by
      simp [CharSet.others, after z (by rw [rest]; rfl)]
    simp [ends_oneOf rest outside]

theorem of_mem_ends_wordBreakBefore {d : Cursor} (member : d ∈ wordBreakBefore.ends c) :
    c.before = none ∧ d.rest = c.rest ∨ ∃ y, c.rest = y :: d.rest ∧ Unicode.isWordChar y = false := by
  rw [ends_wordBreakBefore, List.mem_map] at member
  obtain ⟨e, member, rfl⟩ := member
  rcases List.mem_append.mp member with first | later
  · split at first
    case isTrue absent =>
      cases List.mem_singleton.mp first
      exact .inl ⟨Option.isNone_iff_eq_none.mp absent, rfl⟩
    case isFalse => cases first
  · obtain ⟨y, r, rest, outside, rfl⟩ := mem_ends_oneOf.mp later
    refine .inr ⟨y, ?_, by simpa [CharSet.others] using outside⟩
    exact rest.trans (congrArg _ (Cursor.rest_past (u := [y]) rest).symm)

/-- Underscored text follows the start of the text, or a character of no word. -/
theorem underscoreEmphasis_nothing (start : s.before = none → s.rest.head? ≠ some '_')
    (next : ∀ y r, s.rest = y :: r → Unicode.isWordChar y = true ∨ r.head? ≠ some '_') :
    underscoreEmphasis.pattern.matchAt? s = none := by
  rw [matchAt?_eq_none_iff, underscoreEmphasis_pattern, ends_seq, List.flatMap_eq_nil_iff]
  intro d member
  refine underscored_startsIn d fun x r follows => one_eq_false_iff.mpr ?_
  rintro rfl
  rcases of_mem_ends_wordBreakBefore member with ⟨first, same⟩ | ⟨y, rest, outside⟩
  · exact start first (by rw [← show d.rest = s.rest from same, follows]; rfl)
  · rcases next y d.rest rest with word | other
    · rw [word] at outside
      cases outside
    · exact other (by rw [follows]; rfl)

theorem underscoreEmphasis_nothing_of_nil (rest : s.rest = []) :
    underscoreEmphasis.pattern.matchAt? s = none := by
  refine underscoreEmphasis_nothing (fun _ => ?_) fun y r same => ?_
  · rw [rest]
    simp
  · rw [rest] at same
    cases same

theorem ends_underscored (rest : c.rest = '_' :: (w ++ '_' :: r))
    (after : ∀ z ∈ r.head?, Unicode.isWordChar z = false) (inside : '_' ∉ w) (more : w ≠ [])
    (visible : ∀ x ∈ w.head?, Text.isBlank x = false) :
    underscored.ends c = [⟨c.toSite.past ('_' :: (w ++ '_' :: r.take 1)),
      (3, ⟨c.toSite.past ('_' :: (w ++ ['_'])), c.toSite.past ('_' :: (w ++ '_' :: r.take 1))⟩) ::
        (2, ⟨c.toSite.past ['_'], c.toSite.past ('_' :: w)⟩) :: c.groups⟩] := by
  obtain ⟨x, w, rfl⟩ := List.exists_cons_of_ne_nil more
  rw [List.mem_cons, not_or] at inside
  have opened := Cursor.rest_past (u := ['_']) rest
  have named := Cursor.rest_past (u := x :: w) opened
  have closed := Cursor.rest_past (u := ['_']) named
  have first : (x != '_' && !Text.isBlank x) = true := by
    simp [visible x rfl, Ne.symm inside.1]
  let d := (c.past ['_']).remember 2 ((c.past ['_']).past (x :: w))
  have broken : (d.past ['_']).rest = r := closed
  calc underscored.ends c
      = (seq (group 2 (seq (oneOf fun c => c != '_' && !Text.isBlank c)
          (run (CharSet.except ['_']) 0 none true))) (seq (char '_') wordBreakAfter)).ends
            (c.past ['_']) := ends_seq_char rest
    _ = (seq (char '_') wordBreakAfter).ends d :=
        ends_seq_group_first (startsIn_char '_').seq opened first inside.2
    _ = wordBreakAfter.ends (d.past ['_']) := ends_seq_char named
    _ = [(d.past ['_']).remember 3 ((d.past ['_']).past (r.take 1))] := by
        rw [ends_wordBreakAfter (by rw [broken]; exact after), broken]
    _ = _ := by
        simp [d, Cursor.remember, Cursor.past, Site.past_past]

theorem ends_underscoreEmphasis {y : Char} (rest : s.rest = y :: '_' :: r)
    (before : Unicode.isWordChar y = false) :
    underscoreEmphasis.pattern.ends (.ofSite s) =
      underscored.ends ((Cursor.ofSite s).remember 1 ((Cursor.ofSite s).past [y])) := by
  have outside : CharSet.others Unicode.isWordChar y = true := by simp [CharSet.others, before]
  have other : CharSet.one '_' y = false := by
    rw [one_eq_false_iff]
    rintro rfl
    exact absurd before (by decide)
  rw [underscoreEmphasis_pattern, ends_seq, ends_wordBreakBefore,
    ends_oneOf (c := .ofSite s) rest outside, List.map_append, List.flatMap_append]
  split
  case isTrue =>
    rw [List.map_singleton, List.flatMap_singleton, underscored_startsIn.ends_eq_nil rest other]
    simp
  case isFalse => simp

/-- The first group holds what comes before the underscore: nothing, or a character of no word. -/
theorem yields_of_underscored {a : List Char} (rest : s.rest = a ++ '_' :: (w ++ '_' :: r))
    (after : ∀ z ∈ r.head?, Unicode.isWordChar z = false) (inside : '_' ∉ w) (more : w ≠ [])
    (visible : ∀ x ∈ w.head?, Text.isBlank x = false)
    (ended : underscoreEmphasis.pattern.ends (.ofSite s) =
      underscored.ends ((Cursor.ofSite s).remember 1 ((Cursor.ofSite s).past a))) :
    underscoreEmphasis.pattern.Yields underscoreEmphasis.keep s
      (a ++ '_' :: (w ++ '_' :: r.take 1)) (a ++ (w ++ r.take 1)) := by
  have opened := Cursor.rest_past (c := .ofSite s) rest
  refine yields_of_ends (ended.trans (ends_underscored opened after inside more visible))
    (Site.past_past ..) ?_
  have first : s.textTo (s.past a) = a := Site.textTo_past rest
  have second : (s.past (a ++ ['_'])).textTo (s.past (a ++ '_' :: w)) = w := by
    have split : s.rest = (a ++ ['_']) ++ (w ++ '_' :: r) := by simpa using rest
    simpa using Site.textTo_past_past split
  have third : (s.past (a ++ '_' :: (w ++ ['_']))).textTo
      (s.past (a ++ '_' :: (w ++ '_' :: r.take 1))) = r.take 1 := by
    have split : s.rest = (a ++ '_' :: (w ++ ['_'])) ++ (r.take 1 ++ r.drop 1) := by
      rw [List.take_append_drop]
      simpa using rest
    simpa using Site.textTo_past_past split
  simp [Match.expand, Match.group?, underscoreEmphasis, Capture.text, Site.past_past, first, second,
    third]

theorem underscoreEmphasis_yields {y : Char} (rest : s.rest = y :: '_' :: (w ++ '_' :: r))
    (before : Unicode.isWordChar y = false) (after : ∀ z ∈ r.head?, Unicode.isWordChar z = false)
    (inside : '_' ∉ w) (more : w ≠ []) (visible : ∀ x ∈ w.head?, Text.isBlank x = false) :
    underscoreEmphasis.pattern.Yields underscoreEmphasis.keep s
      (y :: '_' :: (w ++ '_' :: r.take 1)) (y :: (w ++ r.take 1)) :=
  yields_of_underscored (a := [y]) rest after inside more visible
    (ends_underscoreEmphasis rest before)

/-- Every underscore of a text but the first character follows a character of a word. -/
def UnderscoresInWords : List Char → Prop :=
  List.IsChain fun x y => y = '_' → Unicode.isWordChar x = true

theorem underscoresInWords_of_forall (words : ∀ x ∈ w, Unicode.isWordChar x = true) :
    UnderscoresInWords w := by
  refine List.Pairwise.isChain (List.pairwise_of_forall_mem_list ?_)
  intro x inside y _ _
  exact words x inside

theorem underscoresInWords_of_notMem (none : '_' ∉ w) : UnderscoresInWords w := by
  refine List.Pairwise.isChain (List.pairwise_of_forall_mem_list ?_)
  rintro x _ y inside rfl
  exact absurd inside none

/-- Underscores in words are kept. -/
theorem replaced_underscoresInWords (first : s.before = none → w.head? ≠ some '_')
    (rest : s.rest = w ++ r) (words : UnderscoresInWords w) (apart : r.head? ≠ some '_') :
    Replaced underscoreEmphasis.pattern underscoreEmphasis.keep s w (s.past w) := by
  induction w generalizing s with
  | nil => rw [Site.past_nil]; exact .done
  | cons x w ih =>
    have nothing : underscoreEmphasis.pattern.matchAt? s = none := by
      refine underscoreEmphasis_nothing (fun start => ?_) fun y r' split => ?_
      · rw [rest]
        exact first start
      · rw [rest, List.cons_append] at split
        cases split
        cases w with
        | nil => exact .inr apart
        | cons z w =>
          by_cases underscore : z = '_'
          · exact .inl ((List.isChain_cons_cons.mp words).1 underscore)
          · exact .inr (by simpa using underscore)
    have later := ih (s := s.past [x]) (by simp [Site.past]) (Site.rest_past (u := [x]) rest)
      words.tail
    rw [Site.past_past] at later
    exact .keep nothing rest later

theorem reduce_underscoresInWords (first : w.head? ≠ some '_') (words : UnderscoresInWords w) :
    underscoreEmphasis.reduce w = w := by
  have rest : (Site.first w).rest = w ++ [] := (List.append_nil w).symm
  have kept := replaced_underscoresInWords (fun _ => first) rest words (by simp)
  have last := Site.rest_past rest
  exact replaceAll_of_replaced kept last (underscoreEmphasis_nothing_of_nil last)

end DocLint.Markdown
