import Mathlib.Data.List.Nodup
import Mathlib.Data.List.Perm.Basic

/-!
# Stable orders

Sorting by a key keeps the order of items with one key. Where the items stood in a strict order
before, keys and that order together determine the sorted list from its members.
-/
namespace DocLint

variable {α β : Type} {key : α → Nat} {earlier : α → α → Prop} {a b : α} {l l' : List α}

/-- Smaller keys come first, and of two items with one key the earlier one. -/
def KeyOrder (key : α → Nat) (earlier : α → α → Prop) (a b : α) : Prop :=
  key a < key b ∨ key a = key b ∧ earlier a b

def sortByKey (key : α → Nat) (l : List α) : List α :=
  l.mergeSort fun a b => key a ≤ key b

theorem le_trans_key (a b c : α) (first : decide (key a ≤ key b) = true)
    (second : decide (key b ≤ key c) = true) : decide (key a ≤ key c) = true := by
  simp only [decide_eq_true_eq] at *
  omega

theorem le_total_key (a b : α) : (decide (key a ≤ key b) || decide (key b ≤ key a)) = true := by
  simp only [Bool.or_eq_true, decide_eq_true_eq]
  omega

theorem mem_sortByKey : a ∈ sortByKey key l ↔ a ∈ l := List.mem_mergeSort

/-- Items that stood in an order are sorted by their keys, and in that order among one key. -/
theorem pairwise_sortByKey (ordered : l.Pairwise earlier) :
    (sortByKey key l).Pairwise (KeyOrder key earlier) := by
  induction l with
  | nil => simp [sortByKey]
  | cons a l ih =>
    obtain ⟨first, rest⟩ := List.pairwise_cons.mp ordered
    obtain ⟨smaller, others, sorted, without, less⟩ :=
      @List.mergeSort_cons α (fun a b => decide (key a ≤ key b)) le_trans_key le_total_key a l
    have later := ih rest
    have keys := @List.pairwise_mergeSort α (fun a b => decide (key a ≤ key b))
      le_trans_key le_total_key (a :: l)
    rw [sortByKey, without] at later
    rw [sorted] at keys
    rw [sortByKey, sorted]
    obtain ⟨front, back, across⟩ := List.pairwise_append.mp later
    obtain ⟨-, behind, -⟩ := List.pairwise_append.mp keys
    refine List.pairwise_append.mpr ⟨front, List.pairwise_cons.mpr ⟨?_, back⟩, ?_⟩
    · intro b member
      have le : key a ≤ key b := of_decide_eq_true ((List.pairwise_cons.mp behind).1 b member)
      have listed : b ∈ l := List.mem_mergeSort.mp (without ▸ List.mem_append_right _ member)
      rcases Nat.lt_or_eq_of_le le with lt | eq
      · exact .inl lt
      · exact .inr ⟨eq, first b listed⟩
    · intro b member c last
      rcases List.mem_cons.mp last with rfl | last
      · have greater := less b member
        simp only [Bool.not_eq_true', decide_eq_false_iff_not] at greater
        exact .inl (by omega)
      · exact across b member c last

/-- Lists in one strict order are equal if they have the same members. -/
theorem eq_of_pairwise_of_mem_iff {before : α → α → Prop}
    (asymm : ∀ a b, before a b → ¬before b a) (first : l.Pairwise before)
    (second : l'.Pairwise before) (same : ∀ a, a ∈ l ↔ a ∈ l') : l = l' := by
  have nodup {l : List α} (ordered : l.Pairwise before) : l.Nodup := by
    refine ordered.imp fun {a b} less eq => ?_
    subst eq
    exact asymm a a less less
  have perm : l.Perm l' := (List.perm_ext_iff_of_nodup (nodup first) (nodup second)).mpr same
  exact perm.eq_of_pairwise (fun a b _ _ less more => absurd more (asymm a b less)) first second

theorem KeyOrder.asymm (strict : ∀ a b, earlier a b → ¬earlier b a) (a b : α)
    (order : KeyOrder key earlier a b) : ¬KeyOrder key earlier b a := by
  rintro (less | ⟨eq, before⟩)
  · rcases order with less' | ⟨eq, -⟩ <;> omega
  · rcases order with less' | ⟨-, after⟩
    · omega
    · exact strict b a before after

variable (key) in
/-- Taking items out of a list does not change how the others are sorted. -/
theorem filter_sortByKey (strict : ∀ a b, earlier a b → ¬earlier b a) (ordered : l.Pairwise earlier)
    (p : α → Bool) : (sortByKey key l).filter p = sortByKey key (l.filter p) := by
  refine eq_of_pairwise_of_mem_iff (KeyOrder.asymm strict) ((pairwise_sortByKey ordered).filter p)
    (pairwise_sortByKey (ordered.filter p)) fun a => ?_
  rw [List.mem_filter, mem_sortByKey, mem_sortByKey, List.mem_filter]

variable (key) in
/-- Sorting by a key does not depend on what else belongs to the items. -/
theorem map_sortByKey {f : β → α} {key' : β → Nat} (same : ∀ b, key (f b) = key' b) (l : List β) :
    (sortByKey key' l).map f = sortByKey key (l.map f) := by
  rw [sortByKey, sortByKey, List.map_mergeSort]
  intro a _ b _
  rw [same, same]

end DocLint
