import DocLint.Proofs.Pattern.Sites

/-!
# Where matches end

The ends of the patterns that marks of text are made of: single characters, fixed texts, and runs
that go on up to a character outside their set. What can follow a run cannot start inside its set,
so that only the longest run counts.
-/
namespace DocLint.Pattern

variable {c : Cursor} {s : Site} {p q : Pattern} {set other : CharSet} {w r : List Char}

/-! ### One equation for each kind of pattern -/

theorem ends_seq (c : Cursor) : (seq p q).ends c = (p.ends c).flatMap q.ends := rfl

theorem ends_alt (c : Cursor) : (alt p q).ends c = p.ends c ++ q.ends c := rfl

theorem ends_group (index : Nat) (c : Cursor) :
    (group index p).ends c = (p.ends c).map (c.remember index) := rfl

theorem ends_anchor (condition : Anchor) (c : Cursor) :
    (anchor condition).ends c = if condition.holds c.before c.rest.head? then [c] else [] := rfl

theorem ends_oneOf_of_nil (rest : c.rest = []) : (oneOf set).ends c = [] := by
  unfold ends
  rw [rest]

theorem ends_oneOf_of_cons {x : Char} (rest : c.rest = x :: r) :
    (oneOf set).ends c = if set x then [c.past [x]] else [] := by
  rw [← Cursor.after_eq_past rest]
  unfold ends
  rw [rest]

theorem mem_ends_oneOf {d : Cursor} : d ∈ (oneOf set).ends c ↔
    ∃ x r, c.rest = x :: r ∧ set x = true ∧ d = c.past [x] := by
  cases rest : c.rest with
  | nil => simp [ends_oneOf_of_nil rest]
  | cons x r => simp [ends_oneOf_of_cons rest]

theorem mem_ends_anchor {condition : Anchor} {d : Cursor} : d ∈ (anchor condition).ends c ↔
    condition.holds c.before c.rest.head? = true ∧ d = c := by
  rw [ends_anchor]
  split <;> simp [*]

theorem ends_run (set : CharSet) (least : Nat) (most : Option Nat) (greedy : Bool) (c : Cursor) :
    (run set least most greedy).ends c = runEnds set least most greedy c := rfl

theorem runSites_nil (most : Option Nat) (seen : List Site) :
    runSites set most s [] seen = s :: seen := by
  cases most <;> rfl

theorem runSites_cons (most : Option Nat) (x : Char) (seen : List Site) :
    runSites set most s (x :: r) seen =
      if set x && most != Option.some 0 then
        runSites set (most.map (· - 1)) (s.after x r) r (s :: seen)
      else s :: seen := by
  cases most <;> rfl

/-! ### What a pattern starts with -/

def StartsIn (p : Pattern) (set : CharSet) : Prop :=
  ∀ c : Cursor, (∀ x r, c.rest = x :: r → set x = false) → p.ends c = []

theorem StartsIn.ends_eq_nil {x : Char} (starts : p.StartsIn set) (rest : c.rest = x :: r)
    (outside : set x = false) : p.ends c = [] :=
  starts c fun y more same => by
    rw [rest] at same
    rw [← (List.cons.inj same).1]
    exact outside

theorem StartsIn.ends_of_nil (starts : p.StartsIn set) (rest : c.rest = []) : p.ends c = [] :=
  starts c fun y more same => by rw [rest] at same; cases same

theorem StartsIn.mono (starts : p.StartsIn set) (le : ∀ x, set x = true → other x = true) :
    p.StartsIn other := fun c outside => starts c fun x r rest => by
  have out := outside x r rest
  cases inside : set x with
  | false => rfl
  | true => rw [le x inside] at out; cases out

theorem startsIn_oneOf (set : CharSet) : (oneOf set).StartsIn set := by
  intro c outside
  cases rest : c.rest with
  | nil => exact ends_oneOf_of_nil rest
  | cons x r => simp [ends_oneOf_of_cons rest, outside x r rest]

theorem startsIn_char (x : Char) : (char x).StartsIn (CharSet.one x) := startsIn_oneOf _

theorem StartsIn.seq (starts : p.StartsIn set) : (seq p q).StartsIn set := fun c outside => by
  rw [ends_seq, starts c outside, List.flatMap_nil]

theorem StartsIn.group {index : Nat} (starts : p.StartsIn set) :
    (group index p).StartsIn set := fun c outside => by
  rw [ends_group, starts c outside, List.map_nil]

theorem StartsIn.alt (starts : p.StartsIn set) (also : q.StartsIn other) :
    (alt p q).StartsIn (set.union other) := fun c outside => by
  have both : ∀ x r, c.rest = x :: r → set x = false ∧ other x = false := fun x r rest => by
    simpa [CharSet.union] using outside x r rest
  rw [ends_alt, starts c fun x r rest => (both x r rest).1, also c fun x r rest => (both x r rest).2,
    List.append_nil]

/-! ### Runs -/

theorem runSites_of_outside (most : Option Nat) (seen : List Site)
    (outside : ∀ x r, w = x :: r → set x = false) :
    runSites set most s w seen = s :: seen := by
  cases w with
  | nil => exact runSites_nil most seen
  | cons x r => rw [runSites_cons, outside x r rfl]; rfl

/-- Where no character of the set follows, a run is empty. -/
theorem runEnds_of_outside {least : Nat} {most : Option Nat} {greedy : Bool}
    (outside : ∀ x r, c.rest = x :: r → set x = false) :
    (run set least most greedy).ends c = if least = 0 then [c] else [] := by
  rw [ends_run, runEnds, runSites_of_outside most [] outside]
  cases least with
  | zero => cases greedy <;> rfl
  | succ least => cases greedy <;> simp

theorem startsIn_run {least : Nat} {most : Option Nat} {greedy : Bool} :
    (run set (least + 1) most greedy).StartsIn set := fun c outside => by
  rw [runEnds_of_outside outside, if_neg (Nat.succ_ne_zero least)]

/-- A run leads over characters of its set only. -/
theorem mem_runSites {most : Option Nat} {seen : List Site} {t : Site} (rest : s.rest = w)
    (member : t ∈ runSites set most s w seen) :
    t ∈ seen ∨ ∃ u, w = u ++ t.rest ∧ ∀ x ∈ u, set x = true := by
  induction w generalizing s most seen with
  | nil =>
    rw [runSites_nil, List.mem_cons] at member
    rcases member with rfl | earlier
    · exact .inr ⟨[], rest.symm, by simp⟩
    · exact .inl earlier
  | cons x w ih =>
    have here : x :: w = [] ++ s.rest ∧ ∀ y ∈ ([] : List Char), set y = true :=
      ⟨rest.symm, by simp⟩
    rw [runSites_cons] at member
    split at member
    case isFalse =>
      rcases List.mem_cons.mp member with rfl | earlier
      · exact .inr ⟨[], here⟩
      · exact .inl earlier
    case isTrue going =>
      rw [Bool.and_eq_true] at going
      rcases ih rfl member with known | ⟨u, split, inside⟩
      · rcases List.mem_cons.mp known with rfl | earlier
        · exact .inr ⟨[], here⟩
        · exact .inl earlier
      · exact .inr ⟨x :: u, by rw [split, List.cons_append],
          List.forall_mem_cons.mpr ⟨going.1, inside⟩⟩

theorem of_mem_ends_run {least : Nat} {most : Option Nat} {greedy : Bool} {d : Cursor}
    (member : d ∈ (run set least most greedy).ends c) :
    ∃ u, c.rest = u ++ d.rest ∧ ∀ x ∈ u, set x = true := by
  rw [ends_run, runEnds, List.mem_map] at member
  obtain ⟨t, taken, rfl⟩ := member
  have long : t ∈ (runSites set most c.toSite c.rest []).take
      ((runSites set most c.toSite c.rest []).length - least) := by
    cases greedy with
    | true => exact taken
    | false => exact List.mem_reverse.mp taken
  rcases mem_runSites rfl (List.mem_of_mem_take long) with earlier | reached
  · cases earlier
  · exact reached

/-- The sites along a run: the last one, and before it those that a character of the set follows. -/
theorem runSites_eq (rest : s.rest = w ++ r) (inside : ∀ x ∈ w, set x = true)
    (stops : ∀ x r', r = x :: r' → set x = false) (seen : List Site) :
    ∃ earlier, runSites set none s (w ++ r) seen = s.past w :: (earlier ++ seen) ∧
      earlier.length = w.length ∧ ∀ t ∈ earlier, ∃ x r', t.rest = x :: r' ∧ set x = true := by
  induction w generalizing s seen with
  | nil => exact ⟨[], by rw [List.nil_append, runSites_of_outside none seen stops]; simp⟩
  | cons x w ih =>
    rw [List.forall_mem_cons] at inside
    have next : s.after x (w ++ r) = s.past [x] := Site.after_eq_past rest
    obtain ⟨earlier, eq, length, starts⟩ :=
      ih (s := s.past [x]) (Site.rest_past rest) inside.2 (s :: seen)
    refine ⟨earlier ++ [s], ?_, by simp [length], ?_⟩
    · have step : runSites set none s (x :: (w ++ r)) seen =
          runSites set none (s.after x (w ++ r)) (w ++ r) (s :: seen) := by
        rw [runSites_cons, inside.1]
        rfl
      rw [List.cons_append, step, next, eq, Site.past_past]
      simp
    · intro t member
      rcases List.mem_append.mp member with old | new
      · exact starts t old
      · rw [List.mem_singleton.mp new]
        exact ⟨x, w ++ r, rest, inside.1⟩

/-- The longest run is preferred; every other one ends where a character of the set follows. -/
theorem ends_run_of_enough {least : Nat} (rest : c.rest = w ++ r) (inside : ∀ x ∈ w, set x = true)
    (stops : ∀ x r', r = x :: r' → set x = false) (enough : least ≤ w.length) :
    ∃ shorter, (run set least none true).ends c = c.past w :: shorter ∧
      ∀ d ∈ shorter, ∃ x r', d.rest = x :: r' ∧ set x = true := by
  obtain ⟨earlier, eq, length, starts⟩ := runSites_eq (s := c.toSite) rest inside stops []
  refine ⟨(earlier.take (w.length - least)).map fun t => { c with toSite := t }, ?_, ?_⟩
  · rw [ends_run, runEnds, rest, eq, List.append_nil]
    simp only [if_true, List.length_cons, length]
    rw [Nat.succ_sub enough, List.take_succ_cons, List.map_cons]
    rfl
  · intro d member
    obtain ⟨t, taken, rfl⟩ := List.mem_map.mp member
    exact starts t (List.mem_of_mem_take taken)

theorem ends_run_of_short {least : Nat} (rest : c.rest = w ++ r) (inside : ∀ x ∈ w, set x = true)
    (stops : ∀ x r', r = x :: r' → set x = false) (short : w.length < least) :
    (run set least none true).ends c = [] := by
  obtain ⟨earlier, eq, length, -⟩ := runSites_eq (s := c.toSite) rest inside stops []
  rw [ends_run, runEnds, rest, eq, List.append_nil]
  simp only [if_true, List.length_cons, length]
  rw [Nat.sub_eq_zero_of_le short]
  rfl

/-- If nothing goes on from inside the set, then only the longest run counts. -/
theorem flatMap_ends_run {least : Nat} {f : Cursor → List Cursor}
    (vanishes : ∀ d : Cursor, ∀ x r', d.rest = x :: r' → set x = true → f d = [])
    (rest : c.rest = w ++ r) (inside : ∀ x ∈ w, set x = true)
    (stops : ∀ x r', r = x :: r' → set x = false) :
    ((run set least none true).ends c).flatMap f = if least ≤ w.length then f (c.past w) else [] := by
  by_cases enough : least ≤ w.length
  · obtain ⟨shorter, eq, starts⟩ := ends_run_of_enough rest inside stops enough
    have none : shorter.flatMap f = [] := List.flatMap_eq_nil_iff.mpr fun d member => by
      obtain ⟨x, r', follows, within⟩ := starts d member
      exact vanishes d x r' follows within
    rw [eq, List.flatMap_cons, none, List.append_nil, if_pos enough]
  · rw [ends_run_of_short rest inside stops (Nat.lt_of_not_le enough), if_neg enough,
      List.flatMap_nil]

/-- A run that has no more than it needs ends in one place only. -/
theorem ends_run_of_length (rest : c.rest = w ++ r) (inside : ∀ x ∈ w, set x = true)
    (stops : ∀ x r', r = x :: r' → set x = false) :
    (run set w.length none true).ends c = [c.past w] := by
  obtain ⟨earlier, eq, length, -⟩ := runSites_eq (s := c.toSite) rest inside stops []
  have one : (earlier ++ []).length + 1 - w.length = 1 := by simp [length]
  rw [ends_run, runEnds, rest, eq, List.length_cons, one]
  rfl

/-! ### Sequences -/

/-- A sequence goes on from the only end of its first part. -/
theorem ends_seq_of_single {d : Cursor} (first : p.ends c = [d]) :
    (seq p q).ends c = q.ends d := by
  rw [ends_seq, first, List.flatMap_singleton]

theorem ends_oneOf {x : Char} (rest : c.rest = x :: r) (inside : set x = true) :
    (oneOf set).ends c = [c.past [x]] := by
  rw [ends_oneOf_of_cons rest, if_pos inside]

theorem ends_seq_oneOf {x : Char} (rest : c.rest = x :: r) (inside : set x = true) :
    (seq (oneOf set) q).ends c = q.ends (c.past [x]) :=
  ends_seq_of_single (ends_oneOf rest inside)

theorem ends_char {x : Char} (rest : c.rest = x :: r) : (char x).ends c = [c.past [x]] :=
  ends_oneOf rest (by simp [CharSet.one])

theorem ends_seq_char {x : Char} (rest : c.rest = x :: r) :
    (seq (char x) q).ends c = q.ends (c.past [x]) :=
  ends_seq_oneOf rest (by simp [CharSet.one])

/-- A run followed by something that starts outside its set. -/
theorem ends_seq_run {least : Nat} (starts : q.StartsIn other)
    (apart : ∀ x, set x = true → other x = false) (rest : c.rest = w ++ r)
    (inside : ∀ x ∈ w, set x = true) (stops : ∀ x r', r = x :: r' → set x = false) :
    (seq (run set least none true) q).ends c =
      if least ≤ w.length then q.ends (c.past w) else [] := by
  rw [ends_seq]
  exact flatMap_ends_run (fun d x r' follows within => starts.ends_eq_nil follows (apart x within))
    rest inside stops

/-- The same for a run in a group that started at an earlier cursor. -/
theorem flatMap_remember_run {least index : Nat} {base : Cursor} (starts : q.StartsIn other)
    (apart : ∀ x, set x = true → other x = false) (rest : c.rest = w ++ r)
    (inside : ∀ x ∈ w, set x = true) (stops : ∀ x r', r = x :: r' → set x = false) :
    (((run set least none true).ends c).map (base.remember index)).flatMap q.ends =
      if least ≤ w.length then q.ends (base.remember index (c.past w)) else [] := by
  rw [List.flatMap_map]
  exact flatMap_ends_run
    (fun d x r' follows within => starts.ends_eq_nil follows (apart x within)) rest inside stops

theorem ends_seq_group_run {least index : Nat} (starts : q.StartsIn other)
    (apart : ∀ x, set x = true → other x = false) (rest : c.rest = w ++ r)
    (inside : ∀ x ∈ w, set x = true) (stops : ∀ x r', r = x :: r' → set x = false) :
    (seq (group index (run set least none true)) q).ends c =
      if least ≤ w.length then q.ends (c.remember index (c.past w)) else [] := by
  rw [ends_seq, ends_group]
  exact flatMap_remember_run starts apart rest inside stops

/-- An optional character is taken if what follows cannot start with it. -/
theorem ends_seq_optional {x : Char} (starts : q.StartsIn other) (apart : other x = false)
    (rest : c.rest = x :: r) (inside : set x = true) :
    (seq (optional set) q).ends c = q.ends (c.past [x]) := by
  have sites : runSites set (Option.some 1) c.toSite c.rest [] = [c.toSite.past [x], c.toSite] := by
    have next : c.toSite.after x r = c.toSite.past [x] := Site.after_eq_past rest
    rw [rest, runSites_cons, inside, ← next]
    cases r <;> simp [runSites_nil, runSites_cons]
  rw [ends_seq, optional, ends_run, runEnds, sites]
  simp only [List.length_cons, List.length_nil, Nat.reduceAdd, Nat.sub_zero, if_true,
    List.take_succ_cons, List.take_zero, List.map_cons, List.map_nil, List.flatMap_cons,
    List.flatMap_nil, List.append_nil]
  rw [starts.ends_eq_nil (c := { c with toSite := c.toSite }) rest apart, List.append_nil]
  rfl

end DocLint.Pattern

namespace DocLint.Cursor

variable {c : Cursor} {a w b r : List Char}

def holding (c : Cursor) (a w b : List Char) : Cursor where
  toSite := c.toSite.past (a ++ (w ++ b))
  groups := (1, ⟨c.toSite.past a, c.toSite.past (a ++ w)⟩) :: c.groups

theorem remember_past (c : Cursor) (a w : List Char) :
    (c.past a).remember 1 ((c.past a).past w) = c.holding a w [] := by
  simp [holding, remember, past, Site.past_past]

theorem holding_past (c : Cursor) (a w b b' : List Char) :
    (c.holding a w b).past b' = c.holding a w (b ++ b') := by
  simp [holding, past, Site.past_past]

theorem rest_holding (rest : c.rest = a ++ (w ++ (b ++ r))) : (c.holding a w b).rest = r :=
  Site.rest_past (u := a ++ (w ++ b)) (by simpa using rest)

end DocLint.Cursor
