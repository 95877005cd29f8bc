import DocLint.Proofs.Pattern.Replacing

/-!
# Where matches lie

A match leads from a site of a text to a later one, over at least as many characters as its pattern
needs. The matches of a pattern that needs a character follow each other in the text without
overlap.
-/
namespace DocLint

/-- The second site is reached from the first one over a text of at least `n` characters. -/
def Site.Leads (n : Nat) (s t : Site) : Prop :=
  ∃ u r, s.rest = u ++ r ∧ t = s.past u ∧ n ≤ u.length

namespace Site.Leads

variable {m n : Nat} {s t e : Site}

theorem refl (s : Site) : s.Leads 0 s :=
  ⟨[], s.rest, rfl, (Site.past_nil s).symm, Nat.le_refl 0⟩

theorem trans (first : s.Leads m t) (second : t.Leads n e) : s.Leads (m + n) e := by
  obtain ⟨u, r, rest, rfl, long⟩ := first
  obtain ⟨v, r', rest', rfl, long'⟩ := second
  rw [Site.rest_past rest] at rest'
  refine ⟨u ++ v, r', ?_, Site.past_past s u v, ?_⟩
  · rw [rest, rest', List.append_assoc]
  · rw [List.length_append]
    omega

theorem mono (le : m ≤ n) (leads : s.Leads n t) : s.Leads m t := by
  obtain ⟨u, r, rest, reached, long⟩ := leads
  exact ⟨u, r, rest, reached, Nat.le_trans le long⟩

theorem after {c : Char} {r : List Char} (rest : s.rest = c :: r) : s.Leads 1 (s.after c r) :=
  ⟨[c], r, rest, Site.after_eq_past rest, Nat.le_refl 1⟩

theorem offset_le (leads : s.Leads n t) : s.offset ≤ t.offset := by
  obtain ⟨u, r, -, rfl, -⟩ := leads
  exact Nat.le_add_right _ _

theorem offset_lt (leads : s.Leads n t) (some : 0 < n) : s.offset < t.offset := by
  obtain ⟨u, r, -, rfl, long⟩ := leads
  exact Site.offset_lt_past (List.ne_nil_of_length_pos (Nat.lt_of_lt_of_le some long))

end Site.Leads

namespace Pattern

def leastLength : Pattern → Nat
  | empty => 0
  | oneOf _ => 1
  | anchor _ => 0
  | run _ least _ _ => least
  | seq first second => first.leastLength + second.leastLength
  | alt preferred other => min preferred.leastLength other.leastLength
  | times body least _ _ => least * body.leastLength
  | group _ body => body.leastLength

variable {p : Pattern} {ps : List Pattern} {s t : Site} {c d : Cursor} {n : Nat}

theorem leastLength_le_sequence (part : p ∈ ps) :
    p.leastLength ≤ (sequence ps).leastLength := by
  induction ps with
  | nil => cases part
  | cons q ps ih =>
    cases ps with
    | nil =>
      obtain rfl := List.mem_singleton.mp part
      exact Nat.le_refl _
    | cons r ps =>
      rw [sequence, leastLength]
      · rcases List.mem_cons.mp part with rfl | later
        · exact Nat.le_add_right _ _
        · exact Nat.le_trans (ih later) (Nat.le_add_left _ _)
      · nofun

theorem leastLength_caseless_pos {text : String} (some : text ≠ "") :
    0 < (caseless text).leastLength := by
  cases letters : text.toList with
  | nil => exact absurd (String.toList_eq_nil_iff.mp letters) some
  | cons c rest =>
    refine Nat.lt_of_lt_of_le Nat.one_pos (leastLength_le_sequence (p := oneOf (CharSet.one c).fold) ?_)
    exact List.mem_map_of_mem (letters ▸ List.mem_cons_self)

theorem leastLength_choice_pos (some : ∀ p ∈ ps, 0 < p.leastLength) :
    0 < (choice ps).leastLength := by
  induction ps with
  | nil => exact Nat.one_pos
  | cons p ps ih =>
    obtain ⟨first, rest⟩ := List.forall_mem_cons.mp some
    cases ps with
    | nil => exact first
    | cons q ps => exact Nat.lt_min.mpr ⟨first, ih rest⟩

/-! ### Runs -/

/-- The sites are passed one by one from a first one on, which is the last of them. -/
def Trail (s : Site) (sites : List Site) : Prop :=
  ∀ (i : Nat) (t : Site), sites[i]? = Option.some t → s.Leads (sites.length - 1 - i) t

theorem Trail.cons {sites : List Site} (trail : Trail s sites) (next : s.Leads sites.length t) :
    Trail s (t :: sites) := by
  intro i e at'
  cases i with
  | zero =>
    obtain rfl := Option.some.inj at'
    simpa using next
  | succ i =>
    rw [List.length_cons, Nat.add_sub_cancel, Nat.add_comm, Nat.sub_add_eq]
    exact trail i e at'

theorem trail_runSites {set : CharSet} {most : Option Nat} {w : List Char} {seen : List Site}
    (rest : t.rest = w) (trail : Trail s seen) (next : s.Leads seen.length t) :
    Trail s (runSites set most t w seen) := by
  induction w generalizing most t seen with
  | nil =>
    rw [runSites_nil]
    exact trail.cons next
  | cons x w ih =>
    rw [runSites_cons]
    split
    · exact ih rfl (trail.cons next) (next.trans (.after rest))
    · exact trail.cons next

theorem leads_of_mem_runEnds {set : CharSet} {least : Nat} {most : Option Nat} {greedy : Bool}
    (member : d ∈ runEnds set least most greedy c) : c.toSite.Leads least d.toSite := by
  rw [runEnds, List.mem_map] at member
  obtain ⟨t, taken, rfl⟩ := member
  have long : t ∈ (runSites set most c.toSite c.rest []).take
      ((runSites set most c.toSite c.rest []).length - least) := by
    cases greedy with
    | true => exact taken
    | false => exact List.mem_reverse.mp taken
  obtain ⟨i, small, at'⟩ := List.mem_take_iff_getElem.mp long
  have trail : Trail c.toSite (runSites set most c.toSite c.rest []) :=
    trail_runSites rfl (fun i t none => by simp at none) (.refl c.toSite)
  have reached := trail i t (List.getElem?_eq_some_iff.mpr ⟨by omega, at'⟩)
  exact reached.mono (by omega)

/-! ### Repetitions -/

theorem leads_of_mem_rounds {step : Cursor → List Cursor}
    (steps : ∀ {c d : Cursor}, d ∈ step c → c.toSite.Leads n d.toSite) {count : Nat}
    (member : d ∈ rounds step count c) : c.toSite.Leads (count * n) d.toSite := by
  induction count generalizing c with
  | zero =>
    rw [rounds, List.mem_singleton] at member
    rw [member, Nat.zero_mul]
    exact .refl _
  | succ count ih =>
    rw [rounds, List.mem_flatMap] at member
    obtain ⟨e, first, later⟩ := member
    exact ((steps first).trans (ih later)).mono (by rw [Nat.succ_mul]; omega)

theorem leads_of_mem_moreRounds {step : Cursor → List Cursor}
    (steps : ∀ {c d : Cursor}, d ∈ step c → c.toSite.Leads n d.toSite) {greedy : Bool}
    {budget : List Char} {most : Option Nat} (member : d ∈ moreRounds step greedy budget most c) :
    c.toSite.Leads 0 d.toSite := by
  induction budget generalizing c most with
  | nil =>
    rw [moreRounds, List.mem_singleton] at member
    subst member
    exact .refl _
  | cons x budget ih =>
    have further (inside : d ∈ (step c).flatMap fun e =>
        if c.offset < e.offset then moreRounds step greedy budget (most.map (· - 1)) e else []) :
        c.toSite.Leads 0 d.toSite := by
      obtain ⟨e, first, later⟩ := List.mem_flatMap.mp inside
      split at later
      · exact ((steps first).trans (ih later)).mono (Nat.zero_le _)
      · cases later
    have here (same : d = c) : c.toSite.Leads 0 d.toSite := same ▸ .refl _
    rw [moreRounds] at member
    split at member
    · exact here (List.mem_singleton.mp member)
    · dsimp only at member
      split at member
      · rcases List.mem_append.mp member with inside | last
        · exact further inside
        · exact here (List.mem_singleton.mp last)
      · rcases List.mem_cons.mp member with first | inside
        · exact here first
        · exact further inside

/-! ### Matches -/

/-- A match ends where its pattern leads. -/
theorem leads_of_mem_ends (member : d ∈ p.ends c) : c.toSite.Leads p.leastLength d.toSite := by
  induction p generalizing c d with
  | empty =>
    rw [ends, List.mem_singleton] at member
    exact member ▸ .refl _
  | oneOf set =>
    obtain ⟨x, r, rest, -, rfl⟩ := mem_ends_oneOf.mp member
    exact ⟨[x], r, rest, rfl, Nat.le_refl 1⟩
  | anchor condition =>
    obtain ⟨-, rfl⟩ := mem_ends_anchor.mp member
    exact .refl _
  | run set least most greedy => exact leads_of_mem_runEnds member
  | seq first second ihFirst ihSecond =>
    rw [ends_seq, List.mem_flatMap] at member
    obtain ⟨e, reached, later⟩ := member
    exact (ihFirst reached).trans (ihSecond later)
  | alt preferred other ihPreferred ihOther =>
    rw [ends_alt, List.mem_append] at member
    rcases member with reached | reached
    · exact (ihPreferred reached).mono (Nat.min_le_left _ _)
    · exact (ihOther reached).mono (Nat.min_le_right _ _)
  | times body least most greedy ih =>
    rw [ends, List.mem_flatMap] at member
    obtain ⟨e, reached, later⟩ := member
    exact (leads_of_mem_rounds ih reached).trans (leads_of_mem_moreRounds ih later)
  | group index body ih =>
    rw [ends_group, List.mem_map] at member
    obtain ⟨e, reached, rfl⟩ := member
    exact ih (d := e) reached

theorem leads_of_matchAt? {m : Match} (found : p.matchAt? s = Option.some m) :
    m.whole.start = s ∧ s.Leads p.leastLength m.whole.stop := by
  refine ⟨start_of_matchAt? found, ?_⟩
  rw [matchAt?] at found
  cases ended : p.ends (.ofSite s) with
  | nil =>
    rw [ended] at found
    cases found
  | cons e more =>
    rw [ended] at found
    cases found
    exact leads_of_mem_ends (c := .ofSite s) (d := e) (ended ▸ List.mem_cons_self)

/-- A match that is found is the match at a site that the search leads to. -/
theorem exists_matchAt?_of_searchFrom {m : Match} {w : List Char} (rest : s.rest = w)
    (found : p.searchFrom s w = Option.some m) :
    ∃ t, s.Leads 0 t ∧ p.matchAt? t = Option.some m := by
  induction w generalizing s with
  | nil => exact ⟨s, .refl s, found⟩
  | cons x w ih =>
    rw [searchFrom] at found
    cases here : p.matchAt? s with
    | some n =>
      rw [here] at found
      exact ⟨s, .refl s, here.trans found⟩
    | none =>
      rw [here] at found
      obtain ⟨t, leads, at'⟩ := ih rfl found
      exact ⟨t, ((Site.Leads.after rest).trans leads).mono (Nat.zero_le _), at'⟩

def Match.After (m : Match) (s : Site) (n : Nat) : Prop :=
  s.Leads 0 m.whole.start ∧ m.whole.start.Leads n m.whole.stop

theorem after_of_searchFrom {m : Match} (found : p.searchFrom s s.rest = Option.some m) :
    m.After s p.leastLength := by
  obtain ⟨t, leads, at'⟩ := exists_matchAt?_of_searchFrom rfl found
  obtain ⟨start, covers⟩ := leads_of_matchAt? at'
  rw [Match.After, start]
  exact ⟨leads, covers⟩

/-- If every match covers something, then the matches follow each other. -/
theorem matchesFrom_ordered (some : 0 < p.leastLength) (budget : List Char) (s : Site) :
    (∀ m ∈ p.matchesFrom budget s, m.After s p.leastLength) ∧
      (p.matchesFrom budget s).Pairwise fun m n => m.whole.stop.Leads 0 n.whole.start := by
  induction budget generalizing s with
  | nil =>
    rw [matchesFrom]
    cases found : p.searchFrom s s.rest with
    | none => simp
    | some m => simpa using after_of_searchFrom found
  | cons x budget ih =>
    rw [matchesFrom]
    cases found : p.searchFrom s s.rest with
    | none => simp
    | some m =>
      have here := after_of_searchFrom found
      have long : ¬(m.whole.length == 0) = true := by
        have ahead := here.2.offset_lt some
        rw [Capture.length, beq_iff_eq]
        omega
      simp only [if_neg long]
      obtain ⟨later, ordered⟩ := ih m.whole.stop
      refine ⟨List.forall_mem_cons.mpr ⟨here, fun n member => ?_⟩,
        List.pairwise_cons.mpr ⟨fun n member => (later n member).1, ordered⟩⟩
      exact ⟨((here.1.trans here.2).trans (later n member).1).mono (Nat.zero_le _),
        (later n member).2⟩

theorem allMatches_ordered (some : 0 < p.leastLength) (text : List Char) :
    (∀ m ∈ p.allMatches text, m.After (.first text) p.leastLength) ∧
      (p.allMatches text).Pairwise fun m n => m.whole.stop.Leads 0 n.whole.start :=
  matchesFrom_ordered some text (.first text)

end Pattern

/-! ### Parts of a text -/

def Capture.Covers (part : Capture) (text before middle after : List Char) : Prop :=
  text = before ++ (middle ++ after) ∧ part.start.offset = byteLength before ∧
    part.length = byteLength middle ∧ part.text = middle

/-- What sites of a text lead to each other is a part of it. -/
theorem Capture.exists_covers {part : Capture} {text : List Char} {n : Nat}
    (inside : (Site.first text).Leads 0 part.start) (leads : part.start.Leads n part.stop) :
    ∃ before middle after, part.Covers text before middle after ∧ n ≤ middle.length := by
  obtain ⟨start, stop⟩ := part
  dsimp only at inside leads
  obtain ⟨before, r, split, rfl, -⟩ := inside
  obtain ⟨middle, after, rest, rfl, long⟩ := leads
  have behind : r = middle ++ after := (Site.rest_past split).symm.trans rest
  refine ⟨before, middle, after, ⟨?_, ?_, ?_, Site.textTo_past rest⟩, long⟩
  · exact split.trans (by rw [behind])
  · exact Nat.zero_add _
  · exact Nat.add_sub_cancel_left _ _

end DocLint
