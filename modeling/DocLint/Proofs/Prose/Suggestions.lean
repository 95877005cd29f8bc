import DocLint.Proofs.Pattern.Spans
import DocLint.Proofs.StableOrder
import DocLint.Prose.Suggestion

/-!
# Where suggestions point

Every suggestion points to a part of the line that is not empty, and its reason quotes this part,
but for the fixed reason against a leading "so". A heuristic has at most one suggestion for each
place. Merging sorts the suggestions by place and heuristic, which determines the list from what the
heuristics suggest; switching heuristics off takes their suggestions out of it.
-/
namespace DocLint.Prose

open Pattern

structure Suggestion.Marks (s : Suggestion) (line before text after : List Char) : Prop where
  split : line = before ++ (text ++ after)
  some : text ≠ []
  offset : s.offset = byteLength before
  length : s.length = byteLength text

theorem Suggestion.Marks.length_pos {s : Suggestion} {line before text after : List Char}
    (marks : s.Marks line before text after) : 0 < s.length := by
  rw [marks.length]
  exact byteLength_pos marks.some

theorem Suggestion.Marks.offset_add_length_le {s : Suggestion} {line before text after : List Char}
    (marks : s.Marks line before text after) : s.offset + s.length ≤ byteLength line := by
  rw [marks.offset, marks.length, marks.split, byteLength_append, byteLength_append]
  omega

/-- The suggestions point to parts of the line, from left to right, and word their reasons in one
way. -/
structure AreSuggestions (wording : List Char → String) (line : List Char) (found : List Suggestion) :
    Prop where
  marks : ∀ s ∈ found, ∃ before text after,
    s.Marks line before text after ∧ s.reason = wording text
  ordered : found.Pairwise fun s t => s.offset < t.offset

variable {p : Pattern} {line : List Char} {wording : List Char → String} {n : Nat}

theorem marks_at (part : Capture) (wording : List Char → String)
    (inside : (Site.first line).Leads 0 part.start) (leads : part.start.Leads n part.stop)
    (some : 0 < n) :
    ∃ before text after, (Suggestion.at part (wording part.text)).Marks line before text after ∧
      (Suggestion.at part (wording part.text)).reason = wording text := by
  obtain ⟨before, text, after, ⟨split, offset, length, covered⟩, long⟩ :=
    Capture.exists_covers inside leads
  refine ⟨before, text, after, ⟨split, ?_, offset, length⟩, congrArg wording covered⟩
  exact List.ne_nil_of_length_pos (Nat.lt_of_lt_of_le some long)

/-! ### The kinds of heuristics -/

theorem areSuggestions_matches (some : 0 < p.leastLength) (verdict : String) (line : List Char) :
    AreSuggestions (fun text => inQuotes text ++ verdict) line (suggestMatches p verdict line) := by
  obtain ⟨inside, ordered⟩ := allMatches_ordered some line
  constructor
  · intro s member
    obtain ⟨m, found, rfl⟩ := List.mem_map.mp member
    exact marks_at m.whole (fun text => inQuotes text ++ verdict) (inside m found).1
      (inside m found).2 some
  · rw [suggestMatches, List.pairwise_map]
    refine ordered.imp_of_mem fun {m n} first _ apart => ?_
    exact Nat.lt_of_lt_of_le ((inside m first).2.offset_lt some) apart.offset_le

/-- Wherever the pattern ends, its first group holds a part of at least `n` characters. -/
def Heads (p : Pattern) (n : Nat) : Prop :=
  ∀ c d : Cursor, d ∈ p.ends c → ∃ part, d.groups.head? = Option.some (1, part) ∧
    c.toSite.Leads 0 part.start ∧ part.start.Leads n part.stop

theorem heads_sequence (condition : Anchor) (set : CharSet) (body : Pattern) (close : Anchor) :
    Heads (sequence [anchor condition, many set, group 1 body, anchor close]) body.leastLength := by
  intro c d member
  simp only [Pattern.sequence, ends_seq, List.mem_flatMap] at member
  obtain ⟨c', start, e, blanks, f, held, last⟩ := member
  rw [ends_anchor] at start last
  split at start
  case isFalse => cases start
  case isTrue =>
    obtain rfl := List.mem_singleton.mp start
    split at last
    case isFalse => cases last
    case isTrue =>
      obtain rfl := List.mem_singleton.mp last
      rw [ends_group, List.mem_map] at held
      obtain ⟨g, inside, rfl⟩ := held
      exact ⟨⟨e.toSite, g.toSite⟩, rfl, leads_of_mem_ends blanks, leads_of_mem_ends inside⟩

theorem areSuggestions_leading (heads : Heads p n) (some : 0 < n) (line : List Char) :
    AreSuggestions wording line (suggestLeading p wording line) := by
  rw [suggestLeading]
  cases found : p.search line with
  | none => exact ⟨by simp, by simp⟩
  | some m =>
    obtain ⟨t, leads, at'⟩ := exists_matchAt?_of_searchFrom rfl found
    rw [matchAt?] at at'
    cases ended : p.ends (.ofSite t) with
    | nil =>
      rw [ended] at at'
      cases at'
    | cons e more =>
      rw [ended] at at'
      cases at'
      obtain ⟨part, head, before, covers⟩ := heads (.ofSite t) e (ended ▸ List.mem_cons_self)
      have group : (⟨⟨t, e.toSite⟩, e.groups⟩ : Match).group? 1 = Option.some part := by
        obtain ⟨others, groups⟩ := List.head?_eq_some_iff.mp head
        simp [Match.group?, groups]
      rw [Option.bind_some, group]
      refine ⟨fun s member => ?_, by simp⟩
      obtain rfl := List.mem_singleton.mp member
      exact marks_at part wording (leads.trans before) covers some

/-- Neighbours stand in the order of the list. -/
theorem mem_neighbours {α : Type} {R : α → α → Prop} {items : List α} (ordered : items.Pairwise R)
    {a b : α} (member : (a, b) ∈ neighbours items) : a ∈ items ∧ b ∈ items ∧ R a b := by
  induction items with
  | nil => simp [neighbours] at member
  | cons x items ih =>
    cases items with
    | nil => simp [neighbours] at member
    | cons y items =>
      rw [neighbours, List.tail_cons, List.zip_cons_cons, List.mem_cons] at member
      obtain ⟨first, rest⟩ := List.pairwise_cons.mp ordered
      rcases member with same | later
      · cases same
        exact ⟨List.mem_cons_self, by simp, first b List.mem_cons_self⟩
      · obtain ⟨left, right, related⟩ := ih rest later
        exact ⟨List.mem_cons_of_mem _ left, List.mem_cons_of_mem _ right, related⟩

theorem pairwise_neighbours {α : Type} {R : α → α → Prop} {items : List α}
    (ordered : items.Pairwise R) : (neighbours items).Pairwise fun x y => R x.1 y.1 := by
  induction items with
  | nil => exact .nil
  | cons x items ih =>
    cases items with
    | nil => exact .nil
    | cons y items =>
      obtain ⟨first, rest⟩ := List.pairwise_cons.mp ordered
      rw [neighbours, List.tail_cons, List.zip_cons_cons]
      refine List.pairwise_cons.mpr ⟨fun (a, b) member => ?_, ih rest⟩
      exact first a (mem_neighbours rest member).1

theorem areSuggestions_repeatedWords (line : List Char) :
    AreSuggestions (fun text => inQuotes text ++ " is repeated") line (repeatedWords line) := by
  have some : 0 < plainWord.leastLength := by decide
  obtain ⟨inside, ordered⟩ := allMatches_ordered some line
  have apart : ((plainWord.allMatches line).map (·.whole)).Pairwise
      fun a b : Capture => a.stop.Leads 0 b.start := List.pairwise_map.mpr ordered
  have covers (part : Capture) (member : part ∈ (plainWord.allMatches line).map (·.whole)) :
      (Site.first line).Leads 0 part.start ∧ part.start.Leads 1 part.stop := by
    obtain ⟨m, found, rfl⟩ := List.mem_map.mp member
    exact inside m found
  constructor
  · intro s member
    obtain ⟨⟨first, second⟩, pair, kept⟩ := List.mem_filterMap.mp member
    obtain ⟨left, right, gap⟩ := mem_neighbours apart pair
    dsimp only at kept
    split at kept
    · cases kept
      let both : Capture := ⟨first.start, second.stop⟩
      exact marks_at both (fun text => inQuotes text ++ " is repeated")
        (covers first left).1 (((covers first left).2.trans gap).trans (covers second right).2)
        (by decide)
    · cases kept
  · have starts : ((plainWord.allMatches line).map (·.whole)).Pairwise
        fun a b : Capture => a.start.offset < b.start.offset :=
      apart.imp_of_mem fun {a b} first _ apart =>
        Nat.lt_of_lt_of_le ((covers a first).2.offset_lt (by decide)) apart.offset_le
    rw [repeatedWords, List.pairwise_filterMap]
    refine (pairwise_neighbours starts).imp fun {x y} before s shown t shown' => ?_
    dsimp only at shown shown'
    split at shown
    · split at shown'
      · cases shown
        cases shown'
        exact before
      · cases shown'
    · cases shown

/-! ### The heuristics -/

/-- The reasons of a heuristic quote the part that they are about, but for a fixed one. -/
def Heuristic.Words (h : Heuristic) (wording : List Char → String) : Prop :=
  (h.key ≠ "so" → ∃ verdict, ∀ text, wording text = inQuotes text ++ verdict) ∧
    (h.key = "so" → ∀ text, wording text = "\"So\" adds no meaning")

theorem Heuristic.Words.of_quotes {h : Heuristic} (other : h.key ≠ "so") (verdict : String) :
    h.Words fun text => inQuotes text ++ verdict :=
  ⟨fun _ => ⟨verdict, fun _ => rfl⟩, fun key => absurd key other⟩

theorem leastLength_anyOf_pos {phrases : List String} (some : ∀ phrase ∈ phrases, phrase ≠ "") :
    0 < (anyOf phrases).leastLength := by
  have letters : 0 < (choice (phrases.map caseless)).leastLength := by
    refine leastLength_choice_pos fun p member => ?_
    obtain ⟨phrase, listed, rfl⟩ := List.mem_map.mp member
    exact leastLength_caseless_pos (some phrase listed)
  exact Nat.lt_of_lt_of_le letters (leastLength_le_sequence (by simp))

theorem leastLength_passivePattern_pos : 0 < passivePattern.leastLength := by
  have blank : (Pattern.some Text.isBlank).leastLength = 1 := rfl
  refine Nat.lt_of_lt_of_le Nat.one_pos ?_
  rw [← blank]
  exact leastLength_le_sequence (by simp)

/-- Every heuristic makes well-placed suggestions. -/
theorem areSuggestions_heuristics : ∀ h ∈ heuristics,
    ∃ wording, h.Words wording ∧ ∀ line, AreSuggestions wording line (h.suggest line) := by
  have ofMatches (key verdict : String) (p : Pattern) (other : key ≠ "so")
      (some : 0 < p.leastLength) :
      ∃ wording, Heuristic.Words ⟨key, suggestMatches p verdict⟩ wording ∧
        ∀ line, AreSuggestions wording line (suggestMatches p verdict line) :=
    ⟨_, .of_quotes other verdict, areSuggestions_matches some verdict⟩
  simp only [heuristics, List.forall_mem_cons, List.not_mem_nil, false_implies, implies_true,
    and_true]
  refine ⟨?passive, ?illusion, ?so, ?thereIs, ?weasel, ?adverb, ?tooWordy, ?cliches⟩
  case passive => exact ofMatches _ _ _ (by decide) leastLength_passivePattern_pos
  case illusion => exact ⟨_, .of_quotes (by decide) _, areSuggestions_repeatedWords⟩
  case so =>
    refine ⟨_, ⟨fun other => absurd rfl other, fun _ _ => rfl⟩, fun line => ?_⟩
    exact areSuggestions_leading (heads_sequence _ _ _ _) (by decide) line
  case thereIs =>
    refine ⟨_, .of_quotes (by decide) " is unnecessary verbiage", fun line => ?_⟩
    exact areSuggestions_leading (heads_sequence _ _ _ _) (by decide) line
  case weasel => exact ofMatches _ _ _ (by decide) (leastLength_anyOf_pos (by decide))
  case adverb => exact ofMatches _ _ _ (by decide) (leastLength_anyOf_pos (by decide))
  case tooWordy => exact ofMatches _ _ _ (by decide) (leastLength_anyOf_pos (by decide))
  case cliches => exact ofMatches _ _ _ (by decide) (leastLength_anyOf_pos (by decide))

/-! ### Merging -/

structure Finding where
  heuristic : Heuristic
  rank : Nat
  suggestion : Suggestion

def Finding.Quotes (f : Finding) (text : List Char) : Prop :=
  (f.heuristic.key ≠ "so" → ∃ verdict, f.suggestion.reason = inQuotes text ++ verdict) ∧
    (f.heuristic.key = "so" → f.suggestion.reason = "\"So\" adds no meaning")

/-- The findings of all heuristics in a line, by offset and heuristic. -/
structure IsMerger (line : List Char) (merged : List Finding) : Prop where
  stems : ∀ f ∈ merged, (f.heuristic, f.rank) ∈ heuristics.zipIdx
  complete : ∀ h i, (h, i) ∈ heuristics.zipIdx →
    (merged.filter fun f => f.rank == i).map (·.suggestion) = h.suggest line
  ordered : merged.Pairwise fun f g => f.suggestion.offset < g.suggestion.offset ∨
    f.suggestion.offset = g.suggestion.offset ∧ f.rank < g.rank
  placed : ∀ f ∈ merged, ∃ before text after,
    f.suggestion.Marks line before text after ∧ f.Quotes text

def findings (hs : List (Heuristic × Nat)) (line : List Char) : List Finding :=
  hs.flatMap fun (h, i) => (h.suggest line).map (⟨h, i, ·⟩)

variable {hs : List (Heuristic × Nat)} {h : Heuristic} {i : Nat} {f g : Finding}

theorem mem_findings :
    f ∈ findings hs line ↔
      (f.heuristic, f.rank) ∈ hs ∧ f.suggestion ∈ f.heuristic.suggest line := by
  simp only [findings, List.mem_flatMap, List.mem_map]
  constructor
  · rintro ⟨⟨h, i⟩, listed, s, member, rfl⟩
    exact ⟨listed, member⟩
  · rintro ⟨listed, member⟩
    exact ⟨_, listed, _, member, rfl⟩

/-- Findings of earlier heuristics come first, and earlier ones of one heuristic. -/
def Finding.Earlier (f g : Finding) : Prop :=
  f.rank < g.rank ∨ f.rank = g.rank ∧ f.suggestion.offset < g.suggestion.offset

theorem Finding.Earlier.asymm (f g : Finding) (earlier : f.Earlier g) : ¬g.Earlier f := by
  unfold Finding.Earlier at *
  omega

theorem pairwise_zipIdx {α : Type} (items : List α) :
    items.zipIdx.Pairwise fun x y => x.2 < y.2 := by
  have places : (items.zipIdx.map Prod.snd).Pairwise (· < ·) := by
    rw [List.zipIdx_map_snd]
    exact List.pairwise_lt_range'
  exact List.pairwise_map.mp places

theorem pairwise_findings (line : List Char) :
    (findings heuristics.zipIdx line).Pairwise Finding.Earlier := by
  refine List.pairwise_flatMap.mpr ⟨fun (h, i) listed => ?_, ?_⟩
  · obtain ⟨wording, -, areSuggestions⟩ :=
      areSuggestions_heuristics h (List.fst_mem_of_mem_zipIdx listed)
    refine List.pairwise_map.mpr ((areSuggestions line).ordered.imp fun less => ?_)
    exact .inr ⟨rfl, less⟩
  · refine (pairwise_zipIdx heuristics).imp fun {x y} less f member g member' => ?_
    obtain ⟨s, -, rfl⟩ := List.mem_map.mp member
    obtain ⟨t, -, rfl⟩ := List.mem_map.mp member'
    exact .inl less

def mergedFindings (line : List Char) : List Finding :=
  sortByKey (·.suggestion.offset) (findings heuristics.zipIdx line)

theorem mem_mergedFindings : f ∈ mergedFindings line ↔
    (f.heuristic, f.rank) ∈ heuristics.zipIdx ∧ f.suggestion ∈ f.heuristic.suggest line :=
  mem_sortByKey.trans mem_findings

theorem pairwise_mergedFindings (line : List Char) :
    (mergedFindings line).Pairwise fun f g => f.suggestion.offset < g.suggestion.offset ∨
      f.suggestion.offset = g.suggestion.offset ∧ f.rank < g.rank := by
  refine (pairwise_sortByKey (pairwise_findings line)).imp fun {f g} order => ?_
  rcases order with less | ⟨same, earlier | ⟨-, less⟩⟩
  · exact .inl less
  · exact .inr ⟨same, earlier⟩
  · exact absurd same (Nat.ne_of_lt less)

/-- What a heuristic suggests is found again in the merged list, in the same order. -/
theorem suggest_of_mergedFindings (listed : (h, i) ∈ heuristics.zipIdx) (line : List Char) :
    ((mergedFindings line).filter fun f => f.rank == i).map (·.suggestion) = h.suggest line := by
  obtain ⟨wording, -, areSuggestions⟩ :=
    areSuggestions_heuristics h (List.fst_mem_of_mem_zipIdx listed)
  refine eq_of_pairwise_of_mem_iff (fun s t less => Nat.not_lt_of_gt less) ?_
    (areSuggestions line).ordered fun s => ?_
  · refine List.pairwise_map.mpr (List.pairwise_filter.mpr ?_)
    refine (pairwise_mergedFindings line).imp fun {f g} order first second => ?_
    rw [beq_iff_eq] at first second
    omega
  · simp only [List.mem_map, List.mem_filter, mem_mergedFindings, beq_iff_eq]
    constructor
    · rintro ⟨⟨h', i', s⟩, ⟨⟨listed', suggested⟩, rfl⟩, rfl⟩
      rw [List.mem_zipIdx_iff_getElem?] at listed listed'
      dsimp only at listed listed' suggested
      obtain rfl := Option.some.inj (listed.symm.trans listed')
      exact suggested
    · intro suggested
      exact ⟨⟨h, i, s⟩, ⟨⟨listed, suggested⟩, rfl⟩, rfl⟩

theorem isMerger_mergedFindings (line : List Char) : IsMerger line (mergedFindings line) where
  stems f member := (mem_mergedFindings.mp member).1
  complete h i listed := suggest_of_mergedFindings listed line
  ordered := pairwise_mergedFindings line
  placed f member := by
    obtain ⟨listed, suggested⟩ := mem_mergedFindings.mp member
    obtain ⟨wording, words, areSuggestions⟩ :=
      areSuggestions_heuristics _ (List.fst_mem_of_mem_zipIdx listed)
    obtain ⟨before, text, after, marks, reason⟩ := (areSuggestions line).marks _ suggested
    refine ⟨before, text, after, marks, fun other => ?_, fun so => ?_⟩
    · obtain ⟨verdict, quotes⟩ := words.1 other
      exact ⟨verdict, reason.trans (quotes text)⟩
    · exact reason.trans (words.2 so text)

/-! ### Switches -/

/-- A heuristic is switched off by its own key alone. -/
theorem isOn_eq (switches : Switches) (h : Heuristic) :
    isOn switches h = (switches.lookup h.key != some false) := by
  induction switches with
  | nil => rfl
  | cons s switches ih =>
    obtain ⟨key, on⟩ := s
    rw [isOn] at ih ⊢
    by_cases own : key = h.key
    · subst own
      cases on <;> simp
    · have other : (h.key == key) = false := beq_eq_false_iff_ne.mpr fun same => own same.symm
      rw [List.find?_cons_of_neg (by simpa using own), List.lookup_cons, other]
      exact ih

theorem map_filter_findings (on : Heuristic → Bool) (hs : List (Heuristic × Nat))
    (line : List Char) : ((findings hs line).filter fun f => on f.heuristic).map (·.suggestion) =
      ((hs.map Prod.fst).filter on).flatMap (·.suggest line) := by
  induction hs with
  | nil => rfl
  | cons first hs ih =>
    obtain ⟨h, i⟩ := first
    rw [findings] at ih ⊢
    rw [List.flatMap_cons, List.filter_append, List.map_append, ih, List.map_cons,
      List.filter_cons]
    cases kept : on h with
    | true => simp [List.filter_map, Function.comp_def, kept]
    | false => simp [List.filter_map, Function.comp_def, kept]

/-- Switching heuristics off takes their findings out of the merged list. -/
theorem suggest_eq (switches : Switches) (line : List Char) :
    suggest switches line = ((mergedFindings line).filter fun f =>
      switches.lookup f.heuristic.key != some false).map (·.suggestion) := by
  have kept := filter_sortByKey (fun f : Finding => f.suggestion.offset)
    Finding.Earlier.asymm (pairwise_findings line) fun f => isOn switches f.heuristic
  simp only [← isOn_eq]
  rw [mergedFindings, kept, map_sortByKey Suggestion.offset (fun _ => rfl),
    map_filter_findings, List.zipIdx_map_fst]
  rfl

end DocLint.Prose
