import DocLint.Proofs.Markdown.Emphasis
import DocLint.Proofs.Pattern.Framing

/-!
# Underscored text between blanks

Underscored text looks at the characters around it, and its occurrence takes them up. A blank
belongs to no word, just like the ends of a text, so that a part of a line between blanks is reduced
as it would be alone. The two reductions go along together: where the part ends with underscored
text, the occurrence in the line takes up one blank more.
-/
namespace DocLint.Pattern

variable {c d e : Cursor} {q : Pattern} {x : Char}

theorem of_mem_ends_seq_char (member : e ∈ (seq (char x) q).ends c) :
    ∃ r, c.rest = x :: r ∧ e ∈ q.ends (c.past [x]) := by
  obtain ⟨d, first, later⟩ := List.mem_flatMap.mp member
  obtain ⟨y, rest, same, rfl⟩ := of_mem_ends_oneOf first
  obtain rfl : y = x := beq_iff_eq.mp same
  exact ⟨_, rest, later⟩

end DocLint.Pattern

namespace DocLint.Markdown

open Pattern

variable {s : Site} {c e : Cursor} {p q u v w r pre : List Char} {y : Char}

/-- A text starts with underscored text, after which no word goes on. -/
structure Underlined (u w r : List Char) : Prop where
  split : u = '_' :: (w ++ '_' :: r)
  inside : '_' ∉ w
  more : w ≠ []
  visible : ∀ x ∈ w.head?, Text.isBlank x = false
  after : ∀ z ∈ r.head?, Unicode.isWordChar z = false

/-! ### Where underscored text is found -/

theorem of_mem_ends_wordBreakAfter (member : e ∈ wordBreakAfter.ends c) :
    ∀ z ∈ c.rest.head?, Unicode.isWordChar z = false := by
  obtain ⟨d, member, -⟩ := List.mem_map.mp member
  intro z head
  rcases List.mem_append.mp member with other | last
  · obtain ⟨y, rest, outside, -⟩ := of_mem_ends_oneOf other
    rw [rest] at head
    cases head
    simpa [CharSet.others] using outside
  · rw [stop, ends_anchor, Option.mem_def.mp head] at last
    cases last

theorem exists_underlined_of_mem_ends (member : e ∈ underscored.ends c) :
    ∃ w r, Underlined c.rest w r := by
  obtain ⟨v, rest, member⟩ := of_mem_ends_seq_char member
  have opened := Cursor.rest_past (u := ['_']) rest
  obtain ⟨d, held, closed⟩ := List.mem_flatMap.mp member
  obtain ⟨d, named, rfl⟩ := List.mem_map.mp held
  obtain ⟨b, first, further⟩ := List.mem_flatMap.mp named
  obtain ⟨x, initial, visible, -⟩ := of_mem_ends_oneOf first
  obtain ⟨w, going, others⟩ := of_mem_ends_run further
  obtain ⟨r, closing, broken⟩ := of_mem_ends_seq_char closed
  have behind := Cursor.rest_past (u := ['_']) closing
  rw [Bool.and_eq_true, Bool.not_eq_true', bne_iff_ne] at visible
  refine ⟨x :: w, r, ?_, ?_, List.cons_ne_nil x w, ?_, ?_⟩
  · rw [rest, ← opened, initial, going, show d.rest = '_' :: r from closing]
    rfl
  · rw [List.mem_cons, not_or]
    exact ⟨Ne.symm visible.1, fun inside => by simpa using others '_' inside⟩
  · rintro y ⟨⟩
    exact visible.2
  · rw [← behind]
    exact of_mem_ends_wordBreakAfter broken

/-- Underscored text is found only at the start of the text or after a character of no word. -/
theorem underscoreEmphasis_nothing_of_not_underlined
    (start : s.before = none → ∀ w r, ¬Underlined s.rest w r)
    (next : ∀ y v, s.rest = y :: v → Unicode.isWordChar y = false → ∀ w r, ¬Underlined v w r) :
    underscoreEmphasis.pattern.matchAt? s = none := by
  rw [matchAt?_eq_none_iff, underscoreEmphasis_pattern, ends_seq, List.flatMap_eq_nil_iff]
  intro d before
  refine List.eq_nil_iff_forall_not_mem.mpr fun e member => ?_
  obtain ⟨w, r, underlined⟩ := exists_underlined_of_mem_ends member
  rcases of_mem_ends_wordBreakBefore before with ⟨first, same⟩ | ⟨y, rest, outside⟩
  · exact start first w r (by rwa [← show d.rest = s.rest from same])
  · exact next y d.rest rest outside w r underlined

namespace Underlined

/-- After a character of no word, which is taken up. -/
theorem yields (underlined : Underlined v w r) (rest : s.rest = y :: v)
    (before : Unicode.isWordChar y = false) :
    underscoreEmphasis.pattern.Yields underscoreEmphasis.keep s
      (y :: '_' :: (w ++ '_' :: r.take 1)) (y :: (w ++ r.take 1)) :=
  underscoreEmphasis_yields (by rw [rest, underlined.split]) before underlined.after
    underlined.inside underlined.more underlined.visible

/-- At the start of the text. -/
theorem yields_first (underlined : Underlined s.rest w r) (start : s.before = none) :
    underscoreEmphasis.pattern.Yields underscoreEmphasis.keep s ('_' :: (w ++ '_' :: r.take 1))
      (w ++ r.take 1) := by
  have rest := underlined.split
  have ended : underscoreEmphasis.pattern.ends (.ofSite s) =
      underscored.ends ((Cursor.ofSite s).remember 1 (.ofSite s)) := by
    have noBreak : (oneOf (CharSet.others Unicode.isWordChar)).ends (.ofSite s) = [] :=
      (startsIn_oneOf _).ends_eq_nil (c := .ofSite s) rest (by decide)
    have here : (Cursor.ofSite s).before.isNone = true := Option.isNone_iff_eq_none.mpr start
    rw [underscoreEmphasis_pattern, ends_seq, ends_wordBreakBefore, noBreak, if_pos here,
      List.append_nil, List.map_singleton, List.flatMap_singleton]
  exact yields_of_underscored (a := []) rest underlined.after underlined.inside underlined.more
    underlined.visible (by rw [ended, Cursor.past_nil])

theorem within (underlined : Underlined u w r) (q : List Char) :
    Underlined (u ++ ' ' :: q) w (r ++ ' ' :: q) where
  split := by rw [underlined.split]; simp
  inside := underlined.inside
  more := underlined.more
  visible := underlined.visible
  after := by
    have blank : Unicode.isWordChar ' ' = false := by decide
    cases r with
    | nil => simpa using blank
    | cons z r => exact underlined.after

theorem of_within (underlined : Underlined (u ++ ' ' :: q) w r) (absent : '_' ∉ q) :
    ∃ r', Underlined u w r' := by
  have split : u ++ ' ' :: q = ('_' :: w ++ ['_']) ++ r := by rw [underlined.split]; simp
  have inner : ∃ r', u = ('_' :: w ++ ['_']) ++ r' ∧ r = r' ++ ' ' :: q := by
    rcases List.append_eq_append_iff.mp split with ⟨a, covered, behind⟩ | ⟨a, own, rest⟩
    · rcases List.eq_nil_or_concat a with rfl | ⟨b, z, rfl⟩
      · exact ⟨[], by rw [covered]; simp, by rw [behind]; rfl⟩
      · rw [List.concat_eq_append, ← List.append_assoc] at covered
        obtain rfl : '_' = z := (List.append_singleton_inj.mp covered).2
        have member : '_' ∈ ' ' :: q := by rw [behind]; simp
        simp [absent] at member
    · exact ⟨a, own, rest⟩
  obtain ⟨r', rfl, rfl⟩ := inner
  refine ⟨r', by simp, underlined.inside, underlined.more, underlined.visible, fun z head => ?_⟩
  exact underlined.after z (by rw [List.head?_append, Option.mem_def.mp head]; rfl)

end Underlined

/-! ### The two reductions -/

/-- What underscored text from a site up to another one is reduced to. -/
abbrev Deemphasized : Site → List Char → Site → Prop :=
  Replaced underscoreEmphasis.pattern underscoreEmphasis.keep

/-- From a site of a part to its end, and from a site of the line to the end of the blank after the
part, the same comes out, but for a text before. -/
def GoesAlong (q before : List Char) (s s' : Site) : Prop :=
  ∃ out t e, Deemphasized s out t ∧ t.rest = [] ∧
    Deemphasized s' (before ++ (out ++ [' '])) e ∧ e.rest = q

section GoesAlong

variable {s' : Site} {before out : List Char}

theorem GoesAlong.of_past (rest : s.rest = u ++ r)
    (same : s'.past before = s.within pre (' ' :: q)) (alone : Deemphasized s out (s.past u))
    (between : Deemphasized s' (before ++ out) (s'.past (before ++ u)))
    (later : GoesAlong q [] (s.past u) ((s.past u).within pre (' ' :: q))) :
    GoesAlong q before s s' := by
  obtain ⟨more, t, e, further, finished, along, ended⟩ := later
  rw [Site.within_past rest, ← same, Site.past_past] at along
  refine ⟨out ++ more, t, e, alone.trans further, finished, ?_, ended⟩
  simpa using between.trans along

/-- An occurrence takes up one character more, in the line at least the blank. -/
theorem GoesAlong.of_yields {o : List Char} (rest : s.rest = u ++ r) (more : u ≠ [])
    (same : s'.past before = s.within pre (' ' :: q))
    (rest' : s'.rest = before ++ u ++ (r ++ ' ' :: q))
    (alone : underscoreEmphasis.pattern.Yields underscoreEmphasis.keep s (u ++ r.take 1)
      (o ++ r.take 1))
    (between : underscoreEmphasis.pattern.Yields underscoreEmphasis.keep s'
      (before ++ u ++ (r ++ ' ' :: q).take 1) (before ++ o ++ (r ++ ' ' :: q).take 1))
    (later : ∀ z v, r = z :: v →
      GoesAlong q [] (s.past (u ++ [z])) ((s.past (u ++ [z])).within pre (' ' :: q))) :
    GoesAlong q before s s' := by
  have some (v : List Char) : u ++ v ≠ [] := List.append_ne_nil_of_left_ne_nil more v
  have some' (v : List Char) : before ++ u ++ v ≠ [] := by simp [more]
  cases r with
  | nil =>
    have whole : s'.rest = (before ++ u ++ [' ']) ++ q := by simpa using rest'
    have own : s.rest = (u ++ []) ++ [] := by simpa using rest
    refine ⟨_, _, _, .of_yields alone own (some _), Site.rest_past own, ?_, Site.rest_past whole⟩
    simpa using Replaced.of_yields between whole (some' _)
  | cons z v =>
    have own : s.rest = (u ++ [z]) ++ v := by simpa using rest
    have whole : s'.rest = (before ++ u ++ [z]) ++ (v ++ ' ' :: q) := by simpa using rest'
    refine .of_past own same (.of_yields alone own (some _)) ?_ (later z v rfl)
    simpa using Replaced.of_yields between whole (some' _)

end GoesAlong

/-- If nothing is found in the part, then nothing is found in the line. -/
theorem nothing_within (absent : '_' ∉ q) (inner : (s.within pre (' ' :: q)).before ≠ none)
    (next : ∀ y v, s.rest = y :: v → Unicode.isWordChar y = false → ∀ w r, ¬Underlined v w r) :
    underscoreEmphasis.pattern.matchAt? (s.within pre (' ' :: q)) = none := by
  refine underscoreEmphasis_nothing_of_not_underlined (fun start => absurd start inner) ?_
  intro y v rest outside w r underlined
  have whole : s.rest ++ ' ' :: q = y :: v := rest
  cases own : s.rest with
  | nil =>
    rw [own] at whole
    cases whole
    exact absent (by rw [underlined.split]; exact List.mem_cons_self)
  | cons x u =>
    rw [own] at whole
    cases whole
    obtain ⟨r', underlined⟩ := underlined.of_within absent
    exact next _ u own outside w r' underlined

theorem goesAlong (absent : '_' ∉ q) (some : pre ≠ [])
    (first : s.before = none → ∀ w r, ¬Underlined s.rest w r) :
    GoesAlong q [] s (s.within pre (' ' :: q)) := by
  induction length : s.rest.length using Nat.strongRecOn generalizing s with
  | ind n ih =>
    have inner : (s.within pre (' ' :: q)).before ≠ none := by simp [Site.within, some]
    have same : (s.within pre (' ' :: q)).past [] = s.within pre (' ' :: q) := Site.past_nil _
    have later (u r : List Char) (more : u ≠ []) (rest : s.rest = u ++ r) :
        GoesAlong q [] (s.past u) ((s.past u).within pre (' ' :: q)) := by
      have shorter : (s.past u).rest.length < n := by
        have long := List.length_pos_iff.mpr more
        rw [Site.rest_past rest, ← length, rest, List.length_append]
        omega
      refine ih _ shorter (fun start => absurd start ?_) rfl
      simp [Site.past, more]
    by_cases shape : ∃ y v w r, s.rest = y :: v ∧ Unicode.isWordChar y = false ∧ Underlined v w r
    case pos =>
      obtain ⟨y, v, w, r, rest, outside, underlined⟩ := shape
      have whole : s.rest = (y :: '_' :: (w ++ ['_'])) ++ r := by
        rw [rest, underlined.split]
        simp
      have whole' : (s.within pre (' ' :: q)).rest =
          (y :: '_' :: (w ++ ['_'])) ++ (r ++ ' ' :: q) := by
        simp [Site.within, whole]
      have alone := underlined.yields rest outside
      have between := (underlined.within q).yields (s := s.within pre (' ' :: q))
        (by simp [Site.within, rest]) outside
      refine .of_yields (o := y :: w) whole (List.cons_ne_nil _ _) same whole'
        (by simpa using alone) (by simpa using between) fun z v split => ?_
      exact later _ v (List.cons_ne_nil _ _) (by rw [whole, split]; simp)
    case neg =>
      have next : ∀ y v, s.rest = y :: v → Unicode.isWordChar y = false →
          ∀ w r, ¬Underlined v w r := fun y v rest outside w r underlined =>
        shape ⟨y, v, w, r, rest, outside, underlined⟩
      have alone := underscoreEmphasis_nothing_of_not_underlined first next
      have between := nothing_within absent inner next
      cases rest : s.rest with
      | nil =>
        have blank : (s.within pre (' ' :: q)).rest = ' ' :: q := by simp [Site.within, rest]
        exact ⟨[], s, _, .done, rest, .of_nothing between blank, Site.rest_past (u := [' ']) blank⟩
      | cons x r =>
        exact .of_past (u := [x]) rest same (.of_nothing alone rest)
          (.of_nothing between (r := r ++ ' ' :: q) (by simp [Site.within, rest]))
          (later [x] r (List.cons_ne_nil x []) rest)

/-- From the start of a part on, and from the blank before it. -/
theorem goesAlong_first (absent : '_' ∉ q) (p u : List Char) :
    GoesAlong q [' '] (.first u) ((Site.first (p ++ ' ' :: (u ++ ' ' :: q))).past p) := by
  have some : p ++ [' '] ≠ [] := List.append_ne_nil_of_right_ne_nil p (List.cons_ne_nil _ _)
  have origin : (Site.first u).within (p ++ [' ']) (' ' :: q) =
      ((Site.first (p ++ ' ' :: (u ++ ' ' :: q))).past p).past [' '] := by
    rw [Site.within_first, Site.past_past]
    simp
  generalize front : (Site.first (p ++ ' ' :: (u ++ ' ' :: q))).past p = s at origin ⊢
  have blank : s.rest = ' ' :: (u ++ ' ' :: q) := by
    rw [← front]
    exact Site.rest_past rfl
  by_cases shape : ∃ w r, Underlined u w r
  case pos =>
    obtain ⟨w, r, underlined⟩ := shape
    have whole : (Site.first u).rest = ('_' :: (w ++ ['_'])) ++ r := by
      rw [Site.first, underlined.split]
      simp
    have alone := underlined.yields_first (s := .first u) rfl
    have between := (underlined.within q).yields blank (by decide)
    refine .of_yields (o := w) whole (List.cons_ne_nil _ _) origin.symm ?_ (by simpa using alone)
      (by simpa using between) fun z v split => goesAlong absent some fun start => ?_
    · rw [blank, underlined.split]
      simp
    · simp [Site.past] at start
  case neg =>
    have nothing : underscoreEmphasis.pattern.matchAt? s = none := by
      refine underscoreEmphasis_nothing_of_not_underlined (fun _ w r underlined => ?_)
        fun y v rest _ w r underlined => ?_
      · have split := underlined.split
        rw [blank] at split
        cases split
      · rw [blank] at rest
        cases rest
        exact shape ⟨w, underlined.of_within absent⟩
    obtain ⟨out, t, e, alone, finished, along, ended⟩ :=
      goesAlong (s := .first u) absent some fun _ w r underlined => shape ⟨w, r, underlined⟩
    rw [origin] at along
    exact ⟨out, t, e, alone, finished, .keep nothing blank along, ended⟩

theorem reduce_underscores_between (before : '_' ∉ p) (absent : '_' ∉ q) (u : List Char) :
    underscoreEmphasis.reduce (p ++ ' ' :: (u ++ ' ' :: q)) =
      p ++ ' ' :: (underscoreEmphasis.reduce u ++ ' ' :: q) := by
  obtain ⟨out, t, e, alone, finished, along, ended⟩ := goesAlong_first absent p u
  have reduced : underscoreEmphasis.reduce u = out :=
    replaceAll_of_replaced alone finished (underscoreEmphasis_nothing_of_nil finished)
  have front := replaced_underscoresInWords (s := .first (p ++ ' ' :: (u ++ ' ' :: q))) (w := p)
    (fun _ head => before (List.mem_of_head? head)) rfl (underscoresInWords_of_notMem before)
    (by simp)
  have rest : e.rest = q ++ [] := by rw [ended, List.append_nil]
  have behind := replaced_underscoresInWords (fun _ head => absent (List.mem_of_head? head)) rest
    (underscoresInWords_of_notMem absent) (by simp)
  have last := Site.rest_past rest
  have whole := replaceAll_of_replaced (front.trans (along.trans behind)) last
    (underscoreEmphasis_nothing_of_nil last)
  rw [reduced]
  exact Eq.trans whole (by simp)

end DocLint.Markdown
