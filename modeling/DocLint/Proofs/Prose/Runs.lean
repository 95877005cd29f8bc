import DocLint.Prose.Suggestion
import DocLint.Proofs.Pattern.Replacing
import Mathlib.Data.List.Basic
import Mathlib.Data.List.TakeWhile

/-!
# Maximal runs

The runs of a set in a line are the parts that hold characters of the set only and that neither side
of the line continues. Cutting the line from left to right finds them all; neighbouring ones have no
character of the set between them. A pattern that matches wanted runs as a whole and nothing else
lists exactly those.
-/
namespace DocLint.Text

/-- A part of a line: what stands before it, its text, and what stands after it. -/
@[ext] structure Span where
  before : List Char
  text : List Char
  after : List Char

/-- The part holds characters of the set only, and neither side of the line continues it. -/
structure Span.IsRun (set : Char → Bool) (line : List Char) (r : Span) : Prop where
  split : line = r.before ++ (r.text ++ r.after)
  some : r.text ≠ []
  inside : ∀ c ∈ r.text, set c = true
  front : ∀ c ∈ r.before.getLast?, set c = false
  back : ∀ c ∈ r.after.head?, set c = false

/-- The rest of a line, in front of which stands `before`, is cut into its runs and the gaps between
them. -/
inductive RunsFrom (set : Char → Bool) : List Char → List Char → List Span → Prop
  | done {before gap : List Char} (outside : ∀ c ∈ gap, set c = false) :
      RunsFrom set before gap []
  | next {before gap w rest : List Char} {runs : List Span} (outside : ∀ c ∈ gap, set c = false)
      (some : w ≠ []) (inside : ∀ c ∈ w, set c = true) (back : ∀ c ∈ rest.head?, set c = false)
      (later : RunsFrom set (before ++ (gap ++ w)) rest runs) :
      RunsFrom set before (gap ++ (w ++ rest)) (⟨before ++ gap, w, rest⟩ :: runs)

variable {set : Char → Bool} {before rest line gap u v w x y r r' : List Char} {runs : List Span}
  {a b : Span}

/-! ### Where runs end -/

/-- A text starts with one run at most that it does not continue. -/
theorem run_unique (inside : ∀ c ∈ u, set c = true) (back : ∀ c ∈ r.head?, set c = false)
    (inside' : ∀ c ∈ v, set c = true) (back' : ∀ c ∈ r'.head?, set c = false)
    (same : u ++ r = v ++ r') : u = v ∧ r = r' := by
  have stops {w x r : List Char} (longer : ∀ c ∈ w ++ x, set c = true)
      (back : ∀ c ∈ (x ++ r).head?, set c = false) : x = [] := by
    cases x with
    | nil => rfl
    | cons c x =>
      have outside := back c rfl
      rw [longer c (by simp)] at outside
      cases outside
  rcases List.append_eq_append_iff.mp same with ⟨x, rfl, rfl⟩ | ⟨x, rfl, rfl⟩
  · obtain rfl := stops inside' back
    simp
  · obtain rfl := stops inside back'
    simp

/-- A text has a first run, or no character of the set. -/
theorem exists_first_run (set : Char → Bool) (s : List Char) :
    (∃ gap w rest, s = gap ++ (w ++ rest) ∧ (∀ c ∈ gap, set c = false) ∧ w ≠ [] ∧
      (∀ c ∈ w, set c = true) ∧ ∀ c ∈ rest.head?, set c = false) ∨ ∀ c ∈ s, set c = false := by
  have gapEnds : s.takeWhile (!set ·) ++ s.dropWhile (!set ·) = s := List.takeWhile_append_dropWhile
  have outside : ∀ c ∈ s.takeWhile (!set ·), set c = false := fun c inside => by
    simpa using List.mem_takeWhile_imp inside
  cases tail : s.dropWhile (!set ·) with
  | nil =>
    rw [tail, List.append_nil] at gapEnds
    exact .inr (gapEnds ▸ outside)
  | cons c t =>
    have first : set c = true := by
      have stops := List.head?_dropWhile_not (!set ·) s
      rw [tail] at stops
      simpa using stops
    have whole : (c :: t).takeWhile set ++ (c :: t).dropWhile set = c :: t :=
      List.takeWhile_append_dropWhile
    refine .inl ⟨s.takeWhile (!set ·), (c :: t).takeWhile set, (c :: t).dropWhile set, ?_, outside,
      ?_, fun d inside => List.mem_takeWhile_imp inside, fun d next => ?_⟩
    · rw [whole, ← tail, gapEnds]
    · rw [List.takeWhile_cons_of_pos first]
      exact List.cons_ne_nil _ _
    · have stops := List.head?_dropWhile_not set (c :: t)
      rw [Option.mem_def.mp next] at stops
      simpa using stops

def Apart (set : Char → Bool) (before rest : List Char) : Prop :=
  (∀ c ∈ before.getLast?, set c = false) ∨ ∀ c ∈ rest.head?, set c = false

/-- A run behind such a text and a gap is not continued to the left. -/
theorem front_behind_gap (apart : Apart set before (gap ++ (w ++ rest)))
    (outside : ∀ c ∈ gap, set c = false) (some : w ≠ []) (inside : ∀ c ∈ w, set c = true) :
    ∀ c ∈ (before ++ gap).getLast?, set c = false := by
  intro c last
  cases gap with
  | nil =>
    obtain ⟨d, w, rfl⟩ := List.exists_cons_of_ne_nil some
    rcases apart with front | first
    · exact front c (by simpa using last)
    · have absent := first d rfl
      rw [inside d List.mem_cons_self] at absent
      cases absent
  | cons d gap =>
    rw [List.getLast?_append_of_ne_nil _ (List.cons_ne_nil d gap)] at last
    exact outside c (List.mem_of_getLast? last)

/-! ### Cutting a line -/

theorem exists_runsFrom (set : Char → Bool) (before rest : List Char) :
    ∃ runs, RunsFrom set before rest runs := by
  induction length : rest.length using Nat.strongRecOn generalizing before rest with
  | _ n ih =>
    subst length
    rcases exists_first_run set rest with ⟨gap, w, r, rfl, outside, some, inside, back⟩ | outside
    · have shorter : r.length < (gap ++ (w ++ r)).length := by
        have := List.length_pos_iff.mpr some
        simp only [List.length_append]
        omega
      obtain ⟨runs, later⟩ := ih _ shorter (before ++ (gap ++ w)) r rfl
      exact ⟨_, .next outside some inside back later⟩
    · exact ⟨[], .done outside⟩

/-- A run that starts behind a text, whose rest starts with a gap and a run, is that run or starts
behind it. -/
theorem Span.IsRun.first_or_later (run : a.IsRun set line)
    (split : line = before ++ (gap ++ (w ++ rest))) (outside : ∀ c ∈ gap, set c = false)
    (inside : ∀ c ∈ w, set c = true) (back : ∀ c ∈ rest.head?, set c = false)
    (behind : ∃ x, a.before = before ++ x) :
    a = ⟨before ++ gap, w, rest⟩ ∨ ∃ y, a.before = before ++ (gap ++ (w ++ y)) := by
  obtain ⟨front, text, after⟩ := a
  obtain ⟨x, rfl⟩ := behind
  have whole := run.split
  rw [split, List.append_assoc, List.append_cancel_left_eq] at whole
  dsimp only at whole
  obtain ⟨c, t, rfl⟩ := List.exists_cons_of_ne_nil run.some
  have first : set c = true := run.inside c List.mem_cons_self
  rcases List.append_eq_append_iff.mp whole with ⟨y, rfl, same⟩ | ⟨y, rfl, same⟩
  · by_cases start : y = []
    · subst start
      obtain ⟨rfl, rfl⟩ := run_unique inside back run.inside run.back same
      exact .inl (by rw [List.append_nil])
    · rcases List.append_eq_append_iff.mp same with ⟨z, rfl, -⟩ | ⟨z, rfl, -⟩
      · exact .inr ⟨z, rfl⟩
      · obtain ⟨d, last⟩ := Option.ne_none_iff_exists'.mp (mt List.getLast?_eq_none_iff.mp start)
        have inRun : set d = true := inside d (List.mem_append_left z (List.mem_of_getLast? last))
        have inFront : set d = false := run.front d (by simp [last])
        rw [inRun] at inFront
        cases inFront
  · cases y with
    | nil =>
      obtain ⟨rfl, rfl⟩ := run_unique run.inside run.back inside back same
      exact .inl (by rw [List.append_nil])
    | cons d y =>
      have inGap : set d = false := outside d (by simp)
      rw [(List.cons.inj same).1, inGap] at first
      cases first

/-- A run behind the start of another one is that run, or starts behind its end. -/
theorem Span.IsRun.eq_or_behind (run : a.IsRun set line) (other : b.IsRun set line)
    (starts : ∃ x, b.before = a.before ++ x) :
    b = a ∨ ∃ y, b.before = a.before ++ (a.text ++ y) := by
  have split : line = a.before ++ ([] ++ (a.text ++ a.after)) := run.split
  simpa using other.first_or_later split (by simp) run.inside run.back starts

/-- Different runs of a line do not overlap. -/
theorem Span.IsRun.apart (run : a.IsRun set line) (other : b.IsRun set line) (different : a ≠ b) :
    byteLength a.before + byteLength a.text ≤ byteLength b.before ∨
      byteLength b.before + byteLength b.text ≤ byteLength a.before := by
  have ends {a b : Span} (behind : ∃ y, b.before = a.before ++ (a.text ++ y)) :
      byteLength a.before + byteLength a.text ≤ byteLength b.before := by
    obtain ⟨y, eq⟩ := behind
    simp only [eq, byteLength_append]
    omega
  rcases List.append_eq_append_iff.mp (run.split.symm.trans other.split) with ⟨x, later, -⟩ | ⟨x, later, -⟩
  · rcases run.eq_or_behind other ⟨x, later⟩ with same | behind
    · exact absurd same.symm different
    · exact .inl (ends behind)
  · rcases other.eq_or_behind run ⟨x, later⟩ with same | behind
    · exact absurd same different
    · exact .inr (ends behind)

/-- No run is behind a text whose rest has no character of the set. -/
theorem Span.IsRun.not_behind (run : a.IsRun set line) (split : line = before ++ rest)
    (outside : ∀ c ∈ rest, set c = false) : ¬∃ x, a.before = before ++ x := by
  rintro ⟨x, behind⟩
  obtain ⟨c, t, text⟩ := List.exists_cons_of_ne_nil run.some
  have whole := run.split
  rw [split, behind, text, List.append_assoc, List.append_cancel_left_eq] at whole
  have absent := outside c (by simp [whole])
  rw [run.inside c (by simp [text])] at absent
  cases absent

namespace RunsFrom

/-- What is cut are the runs of the line that start behind the text in front. -/
theorem mem_iff (cut : RunsFrom set before rest runs) (split : line = before ++ rest)
    (apart : Apart set before rest) :
    a ∈ runs ↔ a.IsRun set line ∧ ∃ x, a.before = before ++ x := by
  induction cut with
  | done outside =>
    exact iff_of_false List.not_mem_nil fun ⟨run, behind⟩ => run.not_behind split outside behind
  | @next before gap w rest runs outside some inside back later ih =>
    have split' : line = before ++ (gap ++ w) ++ rest := by simpa using split
    rw [List.mem_cons, ih split' (.inr back)]
    constructor
    · rintro (rfl | ⟨run, y, eq⟩)
      · exact ⟨⟨by simpa using split, some, inside, front_behind_gap apart outside some inside, back⟩,
          gap, rfl⟩
      · exact ⟨run, gap ++ (w ++ y), by simpa using eq⟩
    · rintro ⟨run, behind⟩
      rcases run.first_or_later split outside inside back behind with same | ⟨y, eq⟩
      · exact .inl same
      · exact .inr ⟨run, y, by simpa using eq⟩

/-- Every cut run starts behind the text in front. -/
theorem behind (cut : RunsFrom set before rest runs) (member : a ∈ runs) :
    ∃ x, a.before = before ++ x := by
  induction cut with
  | done => cases member
  | next _ _ _ _ _ ih =>
    rcases List.mem_cons.mp member with rfl | later
    · exact ⟨_, rfl⟩
    · obtain ⟨x, eq⟩ := ih later
      exact ⟨_, by rw [eq, List.append_assoc]⟩

theorem ordered (cut : RunsFrom set before rest runs) :
    runs.Pairwise fun a b => byteLength a.before < byteLength b.before := by
  induction cut with
  | done => exact .nil
  | next _ some _ _ later ih =>
    refine List.pairwise_cons.mpr ⟨fun b member => ?_, ih⟩
    obtain ⟨x, eq⟩ := later.behind member
    have := byteLength_pos some
    simp only [eq, byteLength_append]
    omega

open Prose in
/-- Runs are neighbours if there is no character of the set between them. -/
theorem mem_neighbours_iff (cut : RunsFrom set before rest runs) :
    (a, b) ∈ neighbours runs ↔ a ∈ runs ∧ b ∈ runs ∧
      ∃ gap, b.before = a.before ++ (a.text ++ gap) ∧ ∀ c ∈ gap, set c = false := by
  induction cut with
  | done => simp [neighbours]
  | @next before gap w rest runs _ some _ _ later ih =>
    have long := List.length_pos_iff.mpr some
    have first (a : Span) (starts : ∃ x, a.before = before ++ gap ++ x) (gap' : List Char)
        (eq : before ++ gap = a.before ++ (a.text ++ gap')) : a.text = [] := by
      obtain ⟨x, starts⟩ := starts
      rw [starts, List.append_assoc, List.self_eq_append_right] at eq
      exact (List.append_eq_nil_iff.mp (List.append_eq_nil_iff.mp eq).2).1
    have behind {b : Span} (member : b ∈ runs) : ∃ x, b.before = before ++ gap ++ (w ++ x) := by
      obtain ⟨x, eq⟩ := later.behind member
      exact ⟨x, by simpa using eq⟩
    cases later with
    | done =>
      refine iff_of_false (by simp [neighbours]) ?_
      rintro ⟨isFirst, isFirst', gap', eq, -⟩
      rw [List.mem_singleton] at isFirst isFirst'
      subst isFirst isFirst'
      exact some (first _ ⟨[], by simp⟩ gap' eq)
    | @next _ gap' w' _ runs' outside some' inside _ later' =>
      have pairs (x y : Span) (more : List Span) :
          neighbours (x :: y :: more) = (x, y) :: neighbours (y :: more) := rfl
      rw [pairs, List.mem_cons, ih, Prod.mk.injEq]
      constructor
      · rintro (⟨rfl, rfl⟩ | ⟨left, right, apart⟩)
        · exact ⟨List.mem_cons_self, by simp, gap', by simp, outside⟩
        · exact ⟨List.mem_cons_of_mem _ left, List.mem_cons_of_mem _ right, apart⟩
      · rintro ⟨left, right, between, eq, clear⟩
        rcases List.mem_cons.mp right with rfl | right
        · exfalso
          rcases List.mem_cons.mp left with rfl | left
          · exact some (first _ ⟨[], by simp⟩ between eq)
          · obtain ⟨x, starts⟩ := behind left
            have := congrArg List.length eq
            simp only [starts, List.length_append] at this
            omega
        · rcases List.mem_cons.mp left with rfl | left
          · rcases List.mem_cons.mp right with rfl | later
            · exact .inl ⟨rfl, rfl⟩
            · obtain ⟨x, starts⟩ := later'.behind later
              obtain ⟨c, t, rfl⟩ := List.exists_cons_of_ne_nil some'
              have same : between = gap' ++ (c :: t ++ x) := by
                simpa using eq.symm.trans starts
              have absent := clear c (by simp [same])
              rw [inside c List.mem_cons_self] at absent
              cases absent
          · exact .inr ⟨left, right, between, eq, clear⟩

end RunsFrom

end DocLint.Text

namespace DocLint.Pattern

open Text

/-! ### Patterns that list runs -/

structure RunAt (set : CharSet) (s : Site) (w r : List Char) : Prop where
  rest : s.rest = w ++ r
  some : w ≠ []
  inside : ∀ c ∈ w, set c = true
  front : ∀ c ∈ s.before, set c = false
  back : ∀ c ∈ r.head?, set c = false

/-- The pattern matches the wanted runs as a whole, and nothing else. -/
structure ListsRuns (p : Pattern) (set : CharSet) (wanted : List Char → Bool) : Prop where
  starts : p.StartsIn set
  found : ∀ {s : Site} {w r : List Char}, RunAt set s w r → wanted w = true →
    ∃ m, p.matchAt? s = Option.some m ∧ m.whole.stop = s.past w
  missed : ∀ {s : Site} {w r : List Char}, RunAt set s w r → wanted w = false →
    ∀ u v, w = u ++ v → v ≠ [] → p.matchAt? (s.past u) = none

variable {p : Pattern} {set : CharSet} {wanted : List Char → Bool} {s : Site}
  {before rest line w r : List Char} {runs : List Span}

/-- Moving over a text in which nothing matches changes no later match. -/
theorem matchesFrom_of_missed (nothing : ∀ u v, w = u ++ v → v ≠ [] → p.matchAt? (s.past u) = none)
    (rest : s.rest = w ++ r) (budget : List Char) :
    p.matchesFrom budget s = p.matchesFrom budget (s.past w) := by
  induction w generalizing s with
  | nil => rw [Site.past_nil]
  | cons x w ih =>
    have here : p.matchAt? s = none := by simpa using nothing [] (x :: w) rfl (List.cons_ne_nil x w)
    have later : p.matchesFrom budget (s.past [x]) = p.matchesFrom budget ((s.past [x]).past w) := by
      refine ih (fun u v split more => ?_) (Site.rest_past (u := [x]) rest)
      rw [Site.past_past]
      exact nothing (x :: u) v (by rw [split, List.cons_append]) more
    rw [matchesFrom_of_nothing here rest, later, Site.past_past]
    rfl

def captureOf (line : List Char) (r : Span) : Capture :=
  ⟨(Site.first line).past r.before, (Site.first line).past (r.before ++ r.text)⟩

theorem ListsRuns.map_matchesFrom (lists : p.ListsRuns set wanted)
    (cut : RunsFrom set before rest runs) (split : line = before ++ rest)
    (apart : Apart set before rest)
    (budget : List Char) (enough : rest.length ≤ budget.length) :
    (p.matchesFrom budget ((Site.first line).past before)).map (·.whole) =
      (runs.filter (wanted ·.text)).map (captureOf line) := by
  induction cut generalizing budget with
  | @done before gap outside =>
    have here : ((Site.first line).past before).rest = gap ++ [] := by
      rw [List.append_nil, Site.rest_past split]
    have last := Site.rest_past here
    rw [matchesFrom_of_outside lists.starts here outside,
      matchesFrom_of_finished last (lists.starts.matchAt?_of_nil last)]
    rfl
  | @next before gap w rest runs outside some inside back later ih =>
    have here : ((Site.first line).past before).rest = gap ++ (w ++ rest) := Site.rest_past split
    have run : RunAt set ((Site.first line).past (before ++ gap)) w rest := by
      refine ⟨?_, some, inside, fun c last => ?_, back⟩
      · rw [← Site.past_past, Site.rest_past here]
      · exact front_behind_gap apart outside some inside c (by simpa [Site.past, Site.first] using last)
    have next : ((Site.first line).past (before ++ gap)).past w =
        (Site.first line).past (before ++ (gap ++ w)) := by
      rw [Site.past_past, List.append_assoc]
    have split' : line = before ++ (gap ++ w) ++ rest := by simpa using split
    have long := List.length_pos_iff.mpr some
    simp only [List.length_append] at enough
    rw [matchesFrom_of_outside lists.starts here outside, Site.past_past, List.filter_cons]
    cases want : wanted w with
    | true =>
      obtain ⟨m, found, stop⟩ := lists.found run want
      cases budget with
      | nil => simp only [List.length_nil] at enough; omega
      | cons x budget =>
        simp only [List.length_cons] at enough
        have whole : m.whole = captureOf line ⟨before ++ gap, w, rest⟩ := by
          rw [captureOf, List.append_assoc, ← next, ← stop, ← start_of_matchAt? found]
        rw [matchesFrom_of_match found stop some, next, List.map_cons,
          ih split' (.inr back) budget (by omega), whole]
        rfl
    | false =>
      rw [matchesFrom_of_missed (lists.missed run want) run.rest, next,
        ih split' (.inr back) budget (by omega)]
      rfl

/-- The matches in a line are its wanted runs, from left to right. -/
theorem ListsRuns.map_allMatches (lists : p.ListsRuns set wanted)
    (cut : RunsFrom set [] line runs) :
    (p.allMatches line).map (·.whole) = (runs.filter (wanted ·.text)).map (captureOf line) := by
  have matched := lists.map_matchesFrom cut rfl (.inl (by simp)) line (Nat.le_refl _)
  rwa [List.nil_append, Site.past_nil] at matched

end DocLint.Pattern
