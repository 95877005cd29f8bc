import DocLint.Proofs.Pattern.Groups

/-!
# Matches in a larger text

What a pattern without anchors matches depends on nothing but the text that it covers. If every
match starts and ends with characters that the text around another one lacks, then replacing the
matches of the whole is replacing those of the inner text.
-/
namespace DocLint

def Site.within (pre post : List Char) (s : Site) : Site where
  before := s.before.or pre.getLast?
  rest := s.rest ++ post
  offset := byteLength pre + s.offset

def Capture.within (pre post : List Char) (part : Capture) : Capture :=
  ⟨part.start.within pre post, part.stop.within pre post⟩

def groupsWithin (pre post : List Char) (groups : List (Nat × Capture)) : List (Nat × Capture) :=
  groups.map fun group => (group.1, group.2.within pre post)

/-- A cursor in a text once others are put before and after it. -/
def Cursor.within (pre post : List Char) (c : Cursor) : Cursor where
  toSite := c.toSite.within pre post
  groups := groupsWithin pre post c.groups

variable {pre post u v r : List Char} {s : Site} {c d : Cursor}

theorem Site.within_first (pre post u : List Char) :
    (Site.first u).within pre post = (Site.first (pre ++ (u ++ post))).past pre := by
  simp [Site.within, Site.first, Site.past]

theorem Site.within_past (rest : s.rest = v ++ r) :
    (s.past v).within pre post = (s.within pre post).past v := by
  simp [Site.within, Site.past, rest, Option.or_assoc, Nat.add_assoc]

theorem Site.within_after {x : Char} {r : List Char} :
    (s.after x r).within pre post = (s.within pre post).after x (r ++ post) := by
  simp [Site.within, Site.after, Nat.add_assoc]

theorem Cursor.within_past (rest : c.rest = v ++ r) :
    (c.past v).within pre post = (c.within pre post).past v := by
  rw [Cursor.within, Cursor.past, Site.within_past rest]
  rfl

/-- A part that is covered has the same text. -/
theorem Capture.text_within {part : Capture} {n : Nat} (leads : part.start.Leads n part.stop) :
    (part.within pre post).text = part.text := by
  obtain ⟨start, stop⟩ := part
  dsimp only at leads
  obtain ⟨v, r, rest, rfl, -⟩ := leads
  have rest' : (start.within pre post).rest = v ++ (r ++ post) := by
    rw [← List.append_assoc, ← rest]
    rfl
  rw [Capture.text, Capture.text, Capture.within, Site.within_past rest, Site.textTo_past rest,
    Site.textTo_past rest']

/-- The cursor has not gone into the text behind. -/
def Cursor.inFront (post : List Char) (d : Cursor) : Bool := post.length ≤ d.rest.length

theorem Cursor.inFront_within (c : Cursor) : (c.within pre post).inFront post = true := by
  simp [Cursor.inFront, Cursor.within, Site.within]

namespace Pattern

/-- What the pattern matches does not depend on the text around, and it has no repetitions but runs.
-/
def isLocal : Pattern → Bool
  | empty | oneOf _ | run .. => true
  | seq first second => first.isLocal && second.isLocal
  | alt preferred other => preferred.isLocal && other.isLocal
  | group _ body => body.isLocal
  | anchor _ | times .. => false

variable {p q : Pattern} {set : CharSet} {most : Option Nat} {seen : List Site}

/-! ### Runs -/

/-- Besides the sites that were seen, those of a run are ever farther. -/
theorem exists_runSites_eq (most : Option Nat) (seen : List Site) (rest : s.rest = u) :
    ∃ beyond, runSites set most s u seen = beyond ++ s :: seen ∧
      ∀ t ∈ beyond, t.rest.length < u.length := by
  induction u generalizing s most seen with
  | nil => exact ⟨[], runSites_nil most seen, by simp⟩
  | cons x u ih =>
    rw [runSites_cons]
    split
    case isFalse => exact ⟨[], rfl, by simp⟩
    case isTrue =>
      obtain ⟨beyond, eq, farther⟩ := ih (s := s.after x u) _ (s :: seen) rfl
      refine ⟨beyond ++ [s.after x u], by rw [eq, List.append_assoc]; rfl, fun t member => ?_⟩
      rw [List.length_cons]
      rcases List.mem_append.mp member with earlier | here
      · exact Nat.lt_succ_of_lt (farther t earlier)
      · rw [List.mem_singleton.mp here]
        exact Nat.lt_succ_self _

theorem runSites_within (set : CharSet) (most : Option Nat) (seen : List Site)
    (pre post : List Char) (rest : s.rest = u) :
    ∃ beyond, runSites set most (s.within pre post) (u ++ post) (seen.map (·.within pre post)) =
        beyond ++ (runSites set most s u seen).map (·.within pre post) ∧
      ∀ t ∈ beyond, t.rest.length < post.length := by
  induction u generalizing s most seen with
  | nil =>
    rw [runSites_nil]
    exact exists_runSites_eq most _ (by simp [Site.within, rest])
  | cons x u ih =>
    rw [List.cons_append, runSites_cons, runSites_cons]
    split
    case isFalse => exact ⟨[], rfl, by simp⟩
    case isTrue =>
      rw [← Site.within_after]
      exact ih _ (s :: seen) rfl

def staysInFront (post : List Char) (t : Site) : Bool := post.length ≤ t.rest.length

theorem filter_take_within {beyond : List Site} (sites : List Site) (least : Nat)
    (pre : List Char) (farther : ∀ t ∈ beyond, t.rest.length < post.length) :
    ((beyond ++ sites.map (·.within pre post)).take
      ((beyond ++ sites.map (·.within pre post)).length - least)).filter (staysInFront post) =
        (sites.take (sites.length - least)).map (·.within pre post) := by
  have count : (beyond ++ sites.map (·.within pre post)).length - least - beyond.length =
      sites.length - least := by
    rw [List.length_append, List.length_map]
    omega
  have none (n : Nat) : (beyond.take n).filter (staysInFront post) = [] := by
    refine List.filter_eq_nil_iff.mpr fun t member => ?_
    simpa [staysInFront] using farther t (List.mem_of_mem_take member)
  have all (sites : List Site) :
      (sites.map (·.within pre post)).filter (staysInFront post) =
        sites.map (·.within pre post) := by
    refine List.filter_eq_self.mpr fun t member => ?_
    obtain ⟨e, -, rfl⟩ := List.mem_map.mp member
    simp [staysInFront, Site.within]
  rw [List.take_append, count, List.filter_append, none, List.nil_append, ← List.map_take, all]

theorem filter_runEnds_within {least : Nat} {greedy : Bool} :
    (runEnds set least most greedy (c.within pre post)).filter (·.inFront post) =
      (runEnds set least most greedy c).map (·.within pre post) := by
  obtain ⟨beyond, eq, farther⟩ :=
    runSites_within (s := c.toSite) set most [] pre post rfl
  have sites : runSites set most (c.within pre post).toSite (c.within pre post).rest [] =
      beyond ++ (runSites set most c.toSite c.rest []).map (·.within pre post) := eq
  have taken := filter_take_within (runSites set most c.toSite c.rest []) least pre farther
  rw [runEnds, runEnds, sites, List.filter_map, List.map_map]
  change (List.filter (staysInFront post) _).map _ = _
  cases greedy with
  | true =>
    rw [if_pos rfl, if_pos rfl, taken, List.map_map]
    rfl
  | false =>
    rw [if_neg Bool.false_ne_true, if_neg Bool.false_ne_true, List.filter_reverse, taken,
      ← List.map_reverse, List.map_map]
    rfl

/-! ### Ends -/

/-- From a cursor in the text behind no match leads back. -/
theorem filter_ends_of_behind (behind : c.inFront post = false) :
    (p.ends c).filter (·.inFront post) = [] := by
  refine List.filter_eq_nil_iff.mpr fun d member => ?_
  obtain ⟨w, r, rest, reached, -⟩ := leads_of_mem_ends member
  have stop : d.rest = r := by rw [reached, Site.rest_past rest]
  have total := congrArg List.length rest
  simp only [Cursor.inFront, decide_eq_false_iff_not, decide_eq_true_eq] at behind ⊢
  rw [List.length_append] at total
  rw [stop]
  omega

theorem flatMap_filter_of_nil {α β : Type} {q : α → Bool} {f : α → List β} (items : List α)
    (nothing : ∀ a, q a = false → f a = []) : items.flatMap f = (items.filter q).flatMap f := by
  induction items with
  | nil => rfl
  | cons a items ih =>
    rw [List.flatMap_cons, List.filter_cons, ih]
    cases wanted : q a with
    | true => rfl
    | false => rw [nothing a wanted]; rfl

theorem filter_singleton_within (d : Cursor) :
    [d.within pre post].filter (·.inFront post) = [d.within pre post] :=
  List.filter_eq_self.mpr (by simp [Cursor.inFront_within])

theorem filter_ends_oneOf_within :
    ((oneOf set).ends (c.within pre post)).filter (·.inFront post) =
      ((oneOf set).ends c).map (·.within pre post) := by
  cases rest : c.rest with
  | cons x r =>
    have rest' : (c.within pre post).rest = x :: (r ++ post) := by
      simp [Cursor.within, Site.within, rest]
    rw [ends_oneOf_of_cons rest, ends_oneOf_of_cons rest', ← Cursor.within_past (v := [x]) rest]
    split
    · exact filter_singleton_within (c.past [x])
    · rfl
  | nil =>
    have rest' : (c.within pre post).rest = post := by simp [Cursor.within, Site.within, rest]
    rw [ends_oneOf_of_nil rest, List.map_nil, List.filter_eq_nil_iff]
    intro d member
    obtain ⟨x, r, next, -, rfl⟩ := mem_ends_oneOf.mp member
    have behind := congrArg List.length (rest'.symm.trans next)
    rw [Cursor.inFront, Cursor.rest_past (u := [x]) next, behind]
    simp

/-- Of a pattern without anchors, the matches that end in the inner text are those of it alone. -/
theorem filter_ends_within (free : p.isLocal = true) (c : Cursor) :
    (p.ends (c.within pre post)).filter (·.inFront post) =
      (p.ends c).map (·.within pre post) := by
  induction p generalizing c with
  | empty => exact filter_singleton_within c
  | anchor condition => cases free
  | times body least most greedy => cases free
  | run set least most greedy => exact filter_runEnds_within
  | oneOf set => exact filter_ends_oneOf_within
  | seq first second ihFirst ihSecond =>
    have both := Bool.and_eq_true_iff.mp free
    have split := flatMap_filter_of_nil (q := (·.inFront post))
      (f := fun d => (second.ends d).filter (·.inFront post)) (first.ends (c.within pre post))
      fun d behind => filter_ends_of_behind behind
    rw [ends_seq, ends_seq, List.filter_flatMap, split, ihFirst both.1, List.map_flatMap,
      List.flatMap_map]
    simp only [ihSecond both.2]
  | alt preferred other ihPreferred ihOther =>
    have both := Bool.and_eq_true_iff.mp free
    rw [ends_alt, ends_alt, List.filter_append, ihPreferred both.1, ihOther both.2,
      List.map_append]
  | group index body ih =>
    rw [ends_group, ends_group, List.filter_map, List.map_map]
    have inner := congrArg (List.map ((c.within pre post).remember index)) (ih free c)
    rw [List.map_map] at inner
    exact inner

/-! ### Closed patterns -/

/-- Every match ends with a character of the set. -/
def EndsIn (p : Pattern) (set : CharSet) : Prop :=
  ∀ c d : Cursor, d ∈ p.ends c → ∃ v x, c.rest = v ++ x :: d.rest ∧ set x = true

theorem of_mem_ends_oneOf (member : d ∈ (oneOf set).ends c) :
    ∃ x, c.rest = x :: d.rest ∧ set x = true ∧ d = c.past [x] := by
  obtain ⟨x, r, rest, inside, rfl⟩ := mem_ends_oneOf.mp member
  exact ⟨x, by rw [rest, Cursor.rest_past (u := [x]) rest], inside, rfl⟩

theorem endsIn_oneOf (set : CharSet) : (oneOf set).EndsIn set := by
  intro c d member
  obtain ⟨x, rest, inside, -⟩ := of_mem_ends_oneOf member
  exact ⟨[], x, rest, inside⟩

theorem endsIn_char (x : Char) : (char x).EndsIn (CharSet.one x) := endsIn_oneOf _

theorem EndsIn.seq (ends : q.EndsIn set) : (seq p q).EndsIn set := by
  intro c d member
  rw [ends_seq, List.mem_flatMap] at member
  obtain ⟨e, first, later⟩ := member
  obtain ⟨w, r, rest, reached, -⟩ := leads_of_mem_ends first
  obtain ⟨v, x, rest', inside⟩ := ends e d later
  have behind : e.rest = r := by rw [reached, Site.rest_past rest]
  exact ⟨w ++ v, x, by rw [rest, ← behind, rest', List.append_assoc], inside⟩

theorem EndsIn.alt (ends : p.EndsIn set) (also : q.EndsIn set) : (alt p q).EndsIn set := by
  intro c d member
  rw [ends_alt, List.mem_append] at member
  exact member.elim (ends c d) (also c d)

theorem EndsIn.mono {other : CharSet} (ends : p.EndsIn set)
    (le : ∀ x, set x = true → other x = true) : p.EndsIn other := by
  intro c d member
  obtain ⟨v, x, rest, inside⟩ := ends c d member
  exact ⟨v, x, rest, le x inside⟩

/-- If the text behind lacks the characters that matches end with, then all matches end in front of
it. -/
theorem ends_within (free : p.isLocal = true) (closes : p.EndsIn set)
    (outside : ∀ x ∈ post, set x = false) (c : Cursor) :
    p.ends (c.within pre post) = (p.ends c).map (·.within pre post) := by
  rw [← filter_ends_within free]
  refine (List.filter_eq_self.mpr fun d member => ?_).symm
  obtain ⟨v, x, rest, inside⟩ := closes _ d member
  have whole : c.rest ++ post = v ++ x :: d.rest := rest
  have absent : x ∉ post := fun member => by
    rw [outside x member] at inside
    cases inside
  rw [Cursor.inFront, decide_eq_true_iff]
  rcases List.append_eq_append_iff.mp whole with ⟨a, -, eq⟩ | ⟨a, -, eq⟩
  · exact absurd (by rw [eq]; simp) absent
  · cases a with
    | nil => exact absurd (by rw [← show x :: d.rest = post from eq]; simp) absent
    | cons y a =>
      have later : d.rest = a ++ post := (List.cons.inj eq).2
      rw [later, List.length_append]
      exact Nat.le_add_left _ _

def Match.within (pre post : List Char) (m : Match) : Match :=
  ⟨m.whole.within pre post, groupsWithin pre post m.groups⟩

theorem matchAt?_within (free : p.isLocal = true) (closes : p.EndsIn set)
    (outside : ∀ x ∈ post, set x = false) (s : Site) :
    p.matchAt? (s.within pre post) = (p.matchAt? s).map (·.within pre post) := by
  have ended : p.ends (.ofSite (s.within pre post)) =
      (p.ends (.ofSite s)).map (·.within pre post) := ends_within free closes outside (.ofSite s)
  rw [matchAt?, matchAt?, ended]
  cases p.ends (.ofSite s) <;> rfl

/-! ### Replacing -/

variable {template : List Nat} {held : List (Nat × Capture)} {out : List Char} {t : Site}
  {m : Match} {first last : CharSet}

theorem heldText_within (parts : ∀ g ∈ held, g.2.start.Leads 0 g.2.stop) (index : Nat) :
    heldText (groupsWithin pre post held) index = heldText held index := by
  have found : (groupsWithin pre post held).find? (fun g => g.1 == index) =
      (held.find? fun g => g.1 == index).map fun g => (g.1, g.2.within pre post) :=
    List.find?_map
  rw [heldText, heldText, found]
  cases here : held.find? fun g => g.1 == index with
  | none => rfl
  | some g => exact Capture.text_within (parts g (List.mem_of_find?_eq_some here))

theorem expand_within (simple : p.isSimple = true) (found : p.matchAt? s = Option.some m) :
    (m.within pre post).expand template = m.expand template := by
  obtain ⟨e, u, rfl, takes⟩ := exists_takes_of_matchAt? simple found
  rw [expand_eq, expand_eq]
  exact congrArg (List.flatMap · template) (funext (heldText_within takes.parts))

/-- The matches of a pattern start and end with characters of two sets and depend on no others. -/
structure Framed (p : Pattern) (first last : CharSet) : Prop where
  starts : p.StartsIn first
  closes : p.EndsIn last
  free : p.isLocal = true

/-- Replacing goes on in the same way once texts are put before and after. -/
theorem Replaced.within (framed : p.Framed first last) (simple : p.isSimple = true)
    (outside : ∀ x ∈ post, last x = false) (replaced : Replaced p template s out t) :
    Replaced p template (s.within pre post) out (t.within pre post) := by
  have same (s : Site) : p.matchAt? (s.within pre post) = (p.matchAt? s).map (·.within pre post) :=
    matchAt?_within framed.free framed.closes outside s
  induction replaced with
  | done => exact .done
  | @keep s t x r out nothing rest _ ih =>
    have rest' : (s.within pre post).rest = x :: (r ++ post) := by simp [Site.within, rest]
    rw [Site.within_past (v := [x]) rest] at ih
    exact .keep (by rw [same, nothing]; rfl) rest' ih
  | @swap s t m u r out found stop rest more _ ih =>
    have rest' : (s.within pre post).rest = u ++ (r ++ post) := by simp [Site.within, rest]
    rw [Site.within_past rest] at ih
    have expands : (m.within pre post).expand template = m.expand template :=
      expand_within simple found
    rw [← expands]
    refine .swap (by rw [same, found]; rfl) ?_ rest' more ih
    rw [← Site.within_past rest, ← stop]
    rfl

/-- What stands around a text is kept, and the text is replaced as it would be alone. -/
theorem replaceAll_within (framed : p.Framed first last) (shortens : p.Shortens template)
    (before : ∀ x ∈ pre, first x = false)
    (after : ∀ x ∈ post, first x = false ∧ last x = false) (u : List Char) :
    p.replaceAll template (pre ++ (u ++ post)) = pre ++ (p.replaceAll template u ++ post) := by
  obtain ⟨t, replaced, finished⟩ := replaced_replaceAll shortens.some template u
  have inner : Replaced p template ((Site.first u).within pre post) (p.replaceAll template u)
      (t.within pre post) :=
    replaced.within framed shortens.simple fun x inside => (after x inside).2
  have rest : (t.within pre post).rest = post ++ [] := by simp [Site.within, finished]
  have behind : Replaced p template (t.within pre post) post ((t.within pre post).past post) :=
    .of_outside framed.starts rest fun x inside => (after x inside).1
  have front : Replaced p template (.first (pre ++ (u ++ post))) pre
      ((Site.first (pre ++ (u ++ post))).past pre) := .of_outside framed.starts rfl before
  rw [Site.within_first] at inner
  have ended := Site.rest_past rest
  exact replaceAll_of_replaced (front.trans (inner.trans behind)) ended
    (framed.starts.matchAt?_of_nil ended)

end Pattern
end DocLint
