import DocLint.Proofs.Pattern.Groups
import Mathlib.Data.List.Flatten
import Mathlib.Data.List.Sort

/-!
# What replacing deletes

If the groups of a pattern are numbered as they follow each other, and so are the groups that stand
for a match, then what stands for a match is a sublist of what it covers. Replacing matches then
deletes characters of the text and does nothing else; removing one never does anything else.
-/
namespace DocLint.Pattern

variable {p : Pattern} {template : List Nat} {s t : Site} {m : Match} {out : List Char}
  {held : List (Nat × Capture)}

/-- The groups of a pattern and those of a template are numbered in their order. -/
structure InOrder (p : Pattern) (template : List Nat) : Prop where
  numbered : p.groupNumbers.Pairwise (· < ·)
  asked : template.Pairwise (· < ·)

/-- The latest group with an index, if any, holds the text of that index. -/
theorem heldText_eq (held : List (Nat × Capture)) (index : Nat) :
    heldText held index = (held.find? fun g => g.1 == index).toList.flatMap (·.2.text) := by
  rw [heldText]
  cases held.find? fun g => g.1 == index <;> simp

/-- Groups that are asked for in the order of their numbers are found in the order in which they
were remembered, if they are numbered in that order. -/
theorem filterMap_find?_sublist (numbered : (held.reverse.map (·.1)).Pairwise (· < ·))
    (asked : template.Pairwise (· < ·)) :
    (template.filterMap fun index => held.find? fun g => g.1 == index).Sublist held.reverse := by
  have : Std.Antisymm fun g h : Nat × Capture => g.1 < h.1 :=
    ⟨fun g h less more => absurd less (Nat.not_lt.mpr (Nat.le_of_lt more))⟩
  have found : (template.filterMap fun index => held.find? fun g => g.1 == index).Pairwise
      fun g h => g.1 < h.1 := by
    refine asked.filterMap _ fun i j less g first h second => ?_
    have own := List.find?_some first
    have own' := List.find?_some second
    rw [beq_iff_eq] at own own'
    rwa [own, own']
  have held_ordered : held.reverse.Pairwise fun g h => g.1 < h.1 := List.pairwise_map.mp numbered
  refine List.sublist_of_subperm_of_pairwise (List.subperm_of_subset ?_ ?_) found held_ordered
  · exact found.imp fun less same => absurd (same ▸ less) (Nat.lt_irrefl _)
  · intro g member
    obtain ⟨index, -, found⟩ := List.mem_filterMap.mp member
    exact List.mem_reverse.mpr (List.mem_of_find?_eq_some found)

/-- What stands for a match is a sublist of what its groups hold, one after the other. -/
theorem expand_sublist (numbered : (m.groups.reverse.map (·.1)).Pairwise (· < ·))
    (asked : template.Pairwise (· < ·)) :
    (m.expand template).Sublist (m.groups.reverse.flatMap (·.2.text)) := by
  have same : m.expand template =
      (template.filterMap fun index => m.groups.find? fun g => g.1 == index).flatMap
        (·.2.text) := by
    rw [expand_eq, List.filterMap_eq_flatMap_toList, List.flatMap_assoc]
    exact congrArg (List.flatMap · template) (funext (heldText_eq m.groups))
  rw [same]
  exact (filterMap_find?_sublist numbered asked).flatMap _

/-- Replacing the matches up to a site deletes characters of the text up to it. -/
theorem Replaced.sublist (simple : p.isSimple = true) (inOrder : p.InOrder template)
    (replaced : Replaced p template s out t) : (out ++ t.rest).Sublist s.rest := by
  induction replaced with
  | done => exact List.Sublist.refl _
  | @keep s t x r out nothing rest later ih =>
    rw [Site.rest_past (u := [x]) rest] at ih
    rw [rest]
    exact ih.cons_cons x
  | @swap s t m u r out found stop rest more later ih =>
    rw [Site.rest_past rest] at ih
    obtain ⟨e, v, rfl, takes⟩ := exists_takes_of_matchAt? simple found
    have covered : v ++ e.rest = s.rest := takes.rest.symm
    have behind : e.rest = r := by
      rw [show e.toSite = s.past u from stop, Site.rest_past rest]
    have swapped := (expand_sublist (m := ⟨⟨s, e.toSite⟩, e.groups⟩)
      (inOrder.numbered.sublist takes.order) inOrder.asked).trans takes.texts
    rw [List.append_assoc, ← covered, behind]
    exact swapped.append ih

/-- Replacing all matches deletes characters of the text. -/
theorem replaceAll_sublist (shortens : p.Shortens template) (inOrder : p.InOrder template)
    (text : List Char) : (p.replaceAll template text).Sublist text := by
  obtain ⟨t, replaced, finished⟩ := replaced_replaceAll shortens.some template text
  have whole := replaced.sublist shortens.simple inOrder
  rwa [finished, List.append_nil] at whole

/-- Removing a match deletes characters of the text, whatever the pattern. -/
theorem removeFirst_sublist (p : Pattern) (text : List Char) :
    (p.removeFirst text).Sublist text := by
  rw [removeFirst]
  cases found : p.search text with
  | none => exact List.Sublist.refl text
  | some m =>
    obtain ⟨⟨u, r, rest, start, -⟩, v, r', rest', stop, -⟩ := after_of_searchFrom found
    have split : r = v ++ r' := by rw [← rest', start, Site.rest_past rest]
    have behind : m.whole.stop.rest = r' := by rw [stop, Site.rest_past rest']
    have front : (Site.first text).textTo m.whole.start = u := by
      rw [start, Site.textTo_past rest]
    have whole : text = u ++ (v ++ r') := by rw [← split, ← rest]; rfl
    rw [Option.toList_some, splice, splice, front, behind, Match.expand, List.flatMap_nil,
      List.append_nil, whole]
    exact (List.sublist_append_right v r').append_left u

end DocLint.Pattern
