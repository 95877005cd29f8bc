import DocLint.Proofs.Pattern.Spans

/-!
# What groups hold

The groups of a match hold parts of the text that it covers. If no group stands in another one,
these parts follow each other, and the characters outside the groups are missing from what they
hold, so that a match with such characters is longer than what stands for it.
-/
namespace DocLint.Pattern

def isGroupless : Pattern → Bool
  | empty | oneOf _ | anchor _ | run .. => true
  | seq first second => first.isGroupless && second.isGroupless
  | alt preferred other => preferred.isGroupless && other.isGroupless
  | times .. | group .. => false

/-- A pattern without groups inside groups and without repetitions but runs. -/
def isSimple : Pattern → Bool
  | empty | oneOf _ | anchor _ | run .. => true
  | seq first second => first.isSimple && second.isSimple
  | alt preferred other => preferred.isSimple && other.isSimple
  | group _ body => body.isGroupless
  | times .. => false

def groupNumbers : Pattern → List Nat
  | empty | oneOf _ | anchor _ | run .. | times .. => []
  | seq first second => first.groupNumbers ++ second.groupNumbers
  | alt preferred other => preferred.groupNumbers ++ other.groupNumbers
  | group index _ => [index]

def leastOutside : Pattern → Nat
  | empty | anchor _ | times .. | group .. => 0
  | oneOf _ => 1
  | run _ least _ _ => least
  | seq first second => first.leastOutside + second.leastOutside
  | alt preferred other => min preferred.leastOutside other.leastOutside

variable {p : Pattern} {s : Site} {c d : Cursor} {m : Match} {u : List Char}
  {held : List (Nat × Capture)} {template : List Nat}

def heldLength (held : List (Nat × Capture)) : Nat := (held.flatMap (·.2.text)).length

/-- From one cursor to another a text is covered. New groups hold parts of it, and a number of
characters is in none of them. -/
structure Takes (n : Nat) (c d : Cursor) (u : List Char) (held : List (Nat × Capture)) : Prop where
  rest : c.rest = u ++ d.rest
  stop : d.toSite = c.toSite.past u
  groups : d.groups = held ++ c.groups
  parts : ∀ g ∈ held, g.2.start.Leads 0 g.2.stop
  kept : ∀ g ∈ held, ∀ x ∈ g.2.text, x ∈ u
  long : heldLength held + n ≤ u.length

theorem groups_of_mem_ends (groupless : p.isGroupless = true) (member : d ∈ p.ends c) :
    d.groups = c.groups := by
  induction p generalizing c d with
  | empty =>
    rw [ends, List.mem_singleton] at member
    rw [member]
  | oneOf set =>
    obtain ⟨x, r, -, -, rfl⟩ := mem_ends_oneOf.mp member
    exact Cursor.groups_past c [x]
  | anchor condition =>
    obtain ⟨-, rfl⟩ := mem_ends_anchor.mp member
    rfl
  | run set least most greedy =>
    rw [ends_run, runEnds, List.mem_map] at member
    obtain ⟨t, -, rfl⟩ := member
    rfl
  | seq first second ihFirst ihSecond =>
    have both := Bool.and_eq_true_iff.mp groupless
    obtain ⟨e, reached, later⟩ := List.mem_flatMap.mp member
    rw [ihSecond both.2 later, ihFirst both.1 reached]
  | alt preferred other ihPreferred ihOther =>
    have both := Bool.and_eq_true_iff.mp groupless
    rcases List.mem_append.mp member with reached | reached
    · exact ihPreferred both.1 reached
    · exact ihOther both.2 reached
  | times body least most greedy => cases groupless
  | group index body => cases groupless

theorem leastOutside_of_isGroupless (groupless : p.isGroupless = true) :
    p.leastOutside = p.leastLength := by
  induction p with
  | empty | oneOf | anchor | run => rfl
  | seq first second ihFirst ihSecond =>
    have both := Bool.and_eq_true_iff.mp groupless
    rw [leastOutside, leastLength, ihFirst both.1, ihSecond both.2]
  | alt preferred other ihPreferred ihOther =>
    have both := Bool.and_eq_true_iff.mp groupless
    rw [leastOutside, leastLength, ihPreferred both.1, ihOther both.2]
  | times | group => cases groupless

theorem takes_of_isGroupless (groupless : p.isGroupless = true) (member : d ∈ p.ends c) :
    ∃ u, Takes p.leastOutside c d u [] := by
  obtain ⟨u, r, rest, stop, long⟩ := leads_of_mem_ends member
  refine ⟨u, ⟨?_, stop, groups_of_mem_ends groupless member, by simp, by simp, ?_⟩⟩
  · rw [stop, Site.rest_past rest, rest]
  · rw [leastOutside_of_isGroupless groupless]
    simpa [heldLength] using long

namespace Takes

variable {n k : Nat} {e : Cursor} {v : List Char} {more : List (Nat × Capture)}

theorem trans (first : Takes n c d u held) (second : Takes k d e v more) :
    Takes (n + k) c e (u ++ v) (more ++ held) where
  rest := by rw [first.rest, second.rest, List.append_assoc]
  stop := by rw [second.stop, first.stop, Site.past_past]
  groups := by rw [second.groups, first.groups, List.append_assoc]
  parts g member := (List.mem_append.mp member).elim (second.parts g) (first.parts g)
  kept g member x inside := by
    rw [List.mem_append]
    exact (List.mem_append.mp member).elim (fun new => .inr (second.kept g new x inside))
      fun old => .inl (first.kept g old x inside)
  long := by
    have long := first.long
    have long' := second.long
    simp only [heldLength, List.flatMap_append, List.length_append] at *
    omega

theorem mono (takes : Takes n c d u held) (le : k ≤ n) : Takes k c d u held :=
  { takes with long := Nat.le_trans (Nat.add_le_add_left le _) takes.long }

theorem text_eq (takes : Takes n c d u held) : (⟨c.toSite, d.toSite⟩ : Capture).text = u := by
  rw [Capture.text, takes.stop]
  exact Site.textTo_past takes.rest

theorem remember (takes : Takes n c d u []) (index : Nat) :
    Takes 0 c (c.remember index d) u [(index, ⟨c.toSite, d.toSite⟩)] := by
  have text := takes.text_eq
  refine ⟨takes.rest, takes.stop, ?_, ?_, ?_, ?_⟩
  · rw [Cursor.groups_remember, takes.groups]
    rfl
  · simpa using ⟨u, d.rest, takes.rest, takes.stop, Nat.zero_le _⟩
  · simp [text]
  · simp [heldLength, text]

end Takes

/-- From one cursor to another a text is covered, and the new groups hold their parts of it one
after the other. Their numbers are among the given ones and follow each other as these do. -/
structure TakesInOrder (numbers : List Nat) (n : Nat) (c d : Cursor) (u : List Char)
    (held : List (Nat × Capture)) : Prop extends Takes n c d u held where
  texts : (held.reverse.flatMap (·.2.text)).Sublist u
  order : (held.reverse.map (·.1)).Sublist numbers

namespace TakesInOrder

variable {n k : Nat} {e : Cursor} {v : List Char} {more : List (Nat × Capture)}
  {numbers others : List Nat}

theorem of_takes (takes : Takes n c d u []) : TakesInOrder numbers n c d u [] where
  toTakes := takes
  texts := List.nil_sublist u
  order := List.nil_sublist numbers

theorem trans (first : TakesInOrder numbers n c d u held)
    (second : TakesInOrder others k d e v more) :
    TakesInOrder (numbers ++ others) (n + k) c e (u ++ v) (more ++ held) where
  toTakes := first.toTakes.trans second.toTakes
  texts := by
    rw [List.reverse_append, List.flatMap_append]
    exact first.texts.append second.texts
  order := by
    rw [List.reverse_append, List.map_append]
    exact first.order.append second.order

theorem mono (takes : TakesInOrder numbers n c d u held) (le : k ≤ n)
    (among : numbers.Sublist others) : TakesInOrder others k c d u held where
  toTakes := takes.toTakes.mono le
  texts := takes.texts
  order := takes.order.trans among

theorem remember (takes : Takes n c d u []) (index : Nat) :
    TakesInOrder [index] 0 c (c.remember index d) u [(index, ⟨c.toSite, d.toSite⟩)] where
  toTakes := takes.remember index
  texts := by simp [takes.text_eq]
  order := List.Sublist.refl [index]

end TakesInOrder

theorem exists_takes_of_mem_ends (simple : p.isSimple = true) (member : d ∈ p.ends c) :
    ∃ u held, TakesInOrder p.groupNumbers p.leastOutside c d u held := by
  induction p generalizing c d with
  | empty | oneOf | anchor | run =>
    obtain ⟨u, takes⟩ := takes_of_isGroupless rfl member
    exact ⟨u, [], .of_takes takes⟩
  | seq first second ihFirst ihSecond =>
    have both := Bool.and_eq_true_iff.mp simple
    obtain ⟨e, reached, later⟩ := List.mem_flatMap.mp member
    obtain ⟨u, held, first⟩ := ihFirst both.1 reached
    obtain ⟨v, more, second⟩ := ihSecond both.2 later
    exact ⟨_, _, first.trans second⟩
  | alt preferred other ihPreferred ihOther =>
    have both := Bool.and_eq_true_iff.mp simple
    rcases List.mem_append.mp member with reached | reached
    · obtain ⟨u, held, takes⟩ := ihPreferred both.1 reached
      exact ⟨u, held, takes.mono (Nat.min_le_left _ _) (List.sublist_append_left _ _)⟩
    · obtain ⟨u, held, takes⟩ := ihOther both.2 reached
      exact ⟨u, held, takes.mono (Nat.min_le_right _ _) (List.sublist_append_right _ _)⟩
  | times body least most greedy => cases simple
  | group index body =>
    obtain ⟨e, reached, rfl⟩ := List.mem_map.mp member
    obtain ⟨u, takes⟩ := takes_of_isGroupless simple reached
    exact ⟨u, _, .remember takes index⟩

/-- A match covers a text, of which its groups hold parts, one after the other. -/
theorem exists_takes_of_matchAt? (simple : p.isSimple = true)
    (found : p.matchAt? s = Option.some m) :
    ∃ e u, m = ⟨⟨s, e.toSite⟩, e.groups⟩ ∧
      TakesInOrder p.groupNumbers p.leastOutside (.ofSite s) e u m.groups := by
  rw [matchAt?] at found
  cases ended : p.ends (.ofSite s) with
  | nil =>
    rw [ended] at found
    cases found
  | cons e more =>
    rw [ended] at found
    cases found
    obtain ⟨u, held, takes⟩ := exists_takes_of_mem_ends (c := .ofSite s) (d := e) simple
      (ended ▸ List.mem_cons_self)
    have own : e.groups = held := takes.groups.trans (List.append_nil held)
    exact ⟨e, u, rfl, own ▸ takes⟩

/-! ### What stands for a match -/

/-- The text that the latest group with an index holds. -/
def heldText (held : List (Nat × Capture)) (index : Nat) : List Char :=
  ((held.find? fun g => g.1 == index).map (·.2.text)).getD []

theorem expand_eq (m : Match) (template : List Nat) :
    m.expand template = template.flatMap (heldText m.groups) := by
  have text (index : Nat) : ((m.group? index).map (·.text)).getD [] = heldText m.groups index := by
    rw [Match.group?, Option.map_map]
    rfl
  exact congrArg (List.flatMap · template) (funext text)

theorem mem_expand {x : Char} (inside : x ∈ m.expand template) : ∃ g ∈ m.groups, x ∈ g.2.text := by
  rw [expand_eq, List.mem_flatMap] at inside
  obtain ⟨index, -, inside⟩ := inside
  rw [heldText] at inside
  cases found : m.groups.find? fun g => g.1 == index with
  | none =>
    rw [found] at inside
    cases inside
  | some g =>
    rw [found] at inside
    exact ⟨g, List.mem_of_find?_eq_some found, inside⟩

theorem heldText_filter {i j : Nat} (apart : j ≠ i) (held : List (Nat × Capture)) :
    heldText (held.filter (·.1 != i)) j = heldText held j := by
  have same (g : Nat × Capture) :
      decide ((g.1 != i) = true ∧ (g.1 == j) = true) = (g.1 == j) := by
    by_cases own : g.1 = j
    · simp [own, apart]
    · simp [own]
  rw [heldText, List.find?_filter, funext same, ← heldText]

theorem length_heldText_add_le (i : Nat) (held : List (Nat × Capture)) :
    (heldText held i).length + heldLength (held.filter (·.1 != i)) ≤ heldLength held := by
  induction held with
  | nil => exact Nat.le_refl 0
  | cons g held ih =>
    have total : heldLength (g :: held) = g.2.text.length + heldLength held := by
      simp [heldLength]
    by_cases own : g.1 = i
    · have text : heldText (g :: held) i = g.2.text := by simp [heldText, own]
      rw [List.filter_cons_of_neg (by simpa using own), text, total]
      exact Nat.add_le_add_left (Nat.le_trans (Nat.le_add_left _ _) ih) _
    · have text : heldText (g :: held) i = heldText held i := by
        rw [heldText, List.find?_cons_of_neg (by simpa using own)]
        rfl
      have kept : heldLength (g :: held.filter (·.1 != i)) =
          g.2.text.length + heldLength (held.filter (·.1 != i)) := by
        simp [heldLength]
      rw [List.filter_cons_of_pos (by simpa using own), text, total, kept]
      omega

/-- Different groups together put out at most what is held. -/
theorem length_expand_le (distinct : template.Nodup) :
    (m.expand template).length ≤ heldLength m.groups := by
  rw [expand_eq]
  generalize m.groups = held
  induction template generalizing held with
  | nil => exact Nat.zero_le _
  | cons i template ih =>
    obtain ⟨absent, distinct⟩ := List.nodup_cons.mp distinct
    have others : template.flatMap (heldText held) =
        template.flatMap (heldText (held.filter (·.1 != i))) := by
      simp only [List.flatMap_def]
      congr 1
      refine List.map_congr_left fun j member => (heldText_filter ?_ held).symm
      rintro rfl
      exact absent member
    rw [List.flatMap_cons, List.length_append, others]
    exact Nat.le_trans (Nat.add_le_add_left (ih distinct _) _) (length_heldText_add_le i held)

/-! ### Replacing -/

variable {t : Site} {out : List Char}

/-- Different groups stand for a match, and characters of it are in none of them. -/
structure Shortens (p : Pattern) (template : List Nat) : Prop where
  simple : p.isSimple = true
  outside : 0 < p.leastOutside
  distinct : template.Nodup

theorem leastOutside_le_leastLength (p : Pattern) : p.leastOutside ≤ p.leastLength := by
  induction p with
  | empty | oneOf | anchor | run => exact Nat.le_refl _
  | times | group => exact Nat.zero_le _
  | seq first second ihFirst ihSecond => exact Nat.add_le_add ihFirst ihSecond
  | alt preferred other ihPreferred ihOther =>
    exact Nat.le_min.mpr ⟨Nat.le_trans (Nat.min_le_left _ _) ihPreferred,
      Nat.le_trans (Nat.min_le_right _ _) ihOther⟩

theorem Shortens.some (shortens : p.Shortens template) : 0 < p.leastLength :=
  Nat.lt_of_lt_of_le shortens.outside (leastOutside_le_leastLength p)

theorem matchAt?_of_nil (some : 0 < p.leastLength) (rest : s.rest = []) : p.matchAt? s = none := by
  cases found : p.matchAt? s with
  | none => rfl
  | some m =>
    obtain ⟨-, u, r, split, -, long⟩ := leads_of_matchAt? found
    rw [rest] at split
    have short := congrArg List.length split
    simp only [List.length_nil, List.length_append] at short
    omega

/-- If every match covers something, then replacing goes on to the end of the text. -/
theorem exists_replaced (some : 0 < p.leastLength) (template : List Nat) (s : Site) :
    ∃ out t, Replaced p template s out t ∧ t.rest = [] := by
  induction length : s.rest.length using Nat.strongRecOn generalizing s with
  | ind n ih =>
    cases found : p.matchAt? s with
    | some m =>
      obtain ⟨-, u, r, rest, stop, long⟩ := leads_of_matchAt? found
      have more : u ≠ [] := List.ne_nil_of_length_pos (Nat.lt_of_lt_of_le some long)
      have shorter : (s.past u).rest.length < n := by
        rw [Site.rest_past rest, ← length, rest, List.length_append]
        omega
      obtain ⟨out, t, replaced, finished⟩ := ih _ shorter (s.past u) rfl
      exact ⟨_, t, .swap found stop rest more replaced, finished⟩
    | none =>
      cases rest : s.rest with
      | nil => exact ⟨[], s, .done, rest⟩
      | cons x r =>
        have shorter : (s.past [x]).rest.length < n := by
          rw [Site.rest_past (u := [x]) rest, ← length, rest, List.length_cons]
          exact Nat.lt_succ_self _
        obtain ⟨out, t, replaced, finished⟩ := ih _ shorter (s.past [x]) rfl
        exact ⟨x :: out, t, .keep found rest replaced, finished⟩

/-- So the whole text is judged by what replacing puts out. -/
theorem replaced_replaceAll (some : 0 < p.leastLength) (template : List Nat) (u : List Char) :
    ∃ t, Replaced p template (.first u) (p.replaceAll template u) t ∧ t.rest = [] := by
  obtain ⟨out, t, replaced, finished⟩ := exists_replaced some template (.first u)
  rw [replaceAll_of_replaced replaced finished (matchAt?_of_nil some finished)]
  exact ⟨t, replaced, finished⟩

/-- What is put out was there before. -/
theorem Replaced.mem (simple : p.isSimple = true) (replaced : Replaced p template s out t) :
    ∀ x ∈ out, x ∈ s.rest := by
  induction replaced with
  | done => simp
  | @keep s t x r out nothing rest later ih =>
    rw [Site.rest_past (u := [x]) rest] at ih
    rw [rest]
    exact List.forall_mem_cons.mpr ⟨List.mem_cons_self, fun y inside =>
      List.mem_cons_of_mem _ (ih y inside)⟩
  | @swap s t m u r out found stop rest more later ih =>
    rw [Site.rest_past rest] at ih
    intro x inside
    rcases List.mem_append.mp inside with swapped | kept
    · obtain ⟨e, v, rfl, takes⟩ := exists_takes_of_matchAt? simple found
      obtain ⟨g, member, held⟩ := mem_expand swapped
      exact takes.rest ▸ List.mem_append_left _ (takes.kept g member x held)
    · rw [rest]
      exact List.mem_append_right u (ih x kept)

/-- If a match has characters outside its groups, then either nothing was replaced or the text got
shorter. -/
theorem Replaced.shorter (shortens : p.Shortens template) (replaced : Replaced p template s out t) :
    (s.rest = out ++ t.rest ∧ p.searchFrom s s.rest = p.searchFrom t t.rest) ∨
      out.length + t.rest.length < s.rest.length := by
  induction replaced with
  | done => exact .inl ⟨rfl, rfl⟩
  | @keep s t x r out nothing rest later ih =>
    have next := Site.rest_past (u := [x]) rest
    rcases ih with ⟨same, search⟩ | shorter
    · refine .inl ⟨?_, (searchFrom_of_nothing nothing rest).trans search⟩
      rw [rest, ← next, same]
      rfl
    · refine .inr ?_
      rw [next] at shorter
      simp only [rest, List.length_cons]
      omega
  | @swap s t m u r out found stop rest more later ih =>
    obtain ⟨e, v, rfl, takes⟩ := exists_takes_of_matchAt? shortens.simple found
    have long := takes.long
    have outside := shortens.outside
    have swapped := length_expand_le (m := ⟨⟨s, e.toSite⟩, e.groups⟩) shortens.distinct
    have total := congrArg List.length takes.rest
    have behind : e.rest = r := by
      have stop' : e.toSite = s.past u := stop
      rw [stop', Site.rest_past rest]
    have after : out.length + t.rest.length ≤ r.length := by
      rw [Site.rest_past rest] at ih
      rcases ih with ⟨same, -⟩ | shorter
      · exact Nat.le_of_eq (by rw [same, List.length_append])
      · exact Nat.le_of_lt shorter
    refine .inr ?_
    have total' : s.rest.length = v.length + r.length := by
      rw [← behind, ← List.length_append]
      exact total
    rw [List.length_append]
    omega

/-- Replacing keeps a text exactly if nothing matches in it. -/
theorem replaceAll_eq_self_iff (shortens : p.Shortens template) (u : List Char) :
    p.replaceAll template u = u ↔ p.found u = false := by
  obtain ⟨t, replaced, finished⟩ := replaced_replaceAll shortens.some template u
  constructor
  · intro same
    rcases replaced.shorter shortens with ⟨-, search⟩ | shorter
    · have none : p.search u = none :=
        search.trans (by rw [finished]; exact matchAt?_of_nil shortens.some finished)
      rw [found, none]
      rfl
    · rw [same, finished] at shorter
      exact absurd shorter (Nat.lt_irrefl _)
  · intro absent
    have none : p.searchFrom (.first u) u = none := by simpa [found, search] using absent
    rw [replaceAll, allMatches, matchesFrom, show (Site.first u).rest = u from rfl, none]
    rfl

theorem length_replaceAll_lt (shortens : p.Shortens template)
    (changed : p.replaceAll template u ≠ u) : (p.replaceAll template u).length < u.length := by
  obtain ⟨t, replaced, finished⟩ := replaced_replaceAll shortens.some template u
  rcases replaced.shorter shortens with ⟨same, -⟩ | shorter
  · rw [finished, List.append_nil] at same
    exact absurd same.symm changed
  · rwa [finished] at shorter

theorem length_replaceAll_le (shortens : p.Shortens template) (u : List Char) :
    (p.replaceAll template u).length ≤ u.length := by
  by_cases same : p.replaceAll template u = u
  · exact Nat.le_of_eq (congrArg List.length same)
  · exact Nat.le_of_lt (length_replaceAll_lt shortens same)

theorem mem_of_mem_replaceAll {x : Char} (shortens : p.Shortens template)
    (inside : x ∈ p.replaceAll template u) : x ∈ u := by
  obtain ⟨t, replaced, -⟩ := replaced_replaceAll shortens.some template u
  exact replaced.mem shortens.simple x inside

end DocLint.Pattern
