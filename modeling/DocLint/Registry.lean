import DocLint.Rule
import DocLint.Text.Quoted
import DocLint.Checks.WriteGood
import DocLint.Checks.Readability
import DocLint.Checks.Spelling
import DocLint.Checks.RequiredProperties
import DocLint.Checks.DateRange

/-!
# Registries of rules

The rules that a run can use, by name: a list whose names increase strictly, so that there is at
most one rule of a name.  The type carries the order, and every operation keeps it.
-/
namespace DocLint

def SortedByName (rules : List Rule) : Prop :=
  rules.Pairwise fun r s => r.name < s.name

structure Registry where
  rules : List Rule
  sorted : SortedByName rules

namespace Registry

def empty : Registry := ⟨[], List.Pairwise.nil⟩

/-- Put a rule into a list that is sorted by name, replacing the rule of that name. -/
def insertSorted (rule : Rule) : List Rule → List Rule
  | [] => [rule]
  | r :: rest =>
    if rule.name < r.name then rule :: r :: rest
    else if rule.name == r.name then rule :: rest
    else r :: insertSorted rule rest

theorem mem_insertSorted {rule s : Rule} {rules : List Rule} (h : s ∈ insertSorted rule rules) :
    s = rule ∨ s ∈ rules := by
  fun_induction insertSorted rule rules with
  | case1 => exact .inl (List.mem_singleton.mp h)
  | case2 r rest => exact List.mem_cons.mp h
  | case3 r rest => exact (List.mem_cons.mp h).imp_right (List.mem_cons_of_mem r)
  | case4 r rest _ _ ih =>
    rcases List.mem_cons.mp h with rfl | h
    · exact .inr List.mem_cons_self
    · exact (ih h).imp_right (List.mem_cons_of_mem r)

theorem sortedByName_insertSorted (rule : Rule) {rules : List Rule} (h : SortedByName rules) :
    SortedByName (insertSorted rule rules) := by
  fun_induction insertSorted rule rules with
  | case1 => exact List.pairwise_singleton _ _
  | case2 r rest below =>
    refine List.pairwise_cons.mpr ⟨fun s hs => ?_, h⟩
    rcases List.mem_cons.mp hs with rfl | hs
    · exact below
    · exact String.lt_trans below ((List.pairwise_cons.mp h).1 s hs)
  | case3 r rest _ same =>
    have ⟨above, sorted⟩ := List.pairwise_cons.mp h
    exact List.pairwise_cons.mpr ⟨fun s hs => eq_of_beq same ▸ above s hs, sorted⟩
  | case4 r rest notBelow notSame ih =>
    have ⟨above, sorted⟩ := List.pairwise_cons.mp h
    refine List.pairwise_cons.mpr ⟨fun s hs => ?_, ih sorted⟩
    rcases mem_insertSorted hs with rfl | hs
    · refine Classical.byContradiction fun notAbove => notSame (beq_iff_eq.mpr ?_)
      exact String.le_antisymm (String.not_lt.mp notAbove) (String.not_lt.mp notBelow)
    · exact above s hs

/-- Add a rule; a rule of its name is replaced. -/
def insert (registry : Registry) (rule : Rule) : Registry :=
  ⟨insertSorted rule registry.rules, sortedByName_insertSorted rule registry.sorted⟩

theorem mem_foldl_insert {rules : List Rule} {registry : Registry} {s : Rule}
    (h : s ∈ (rules.foldl insert registry).rules) : s ∈ rules ∨ s ∈ registry.rules := by
  induction rules generalizing registry with
  | nil => exact .inr h
  | cons rule rules ih =>
    rcases ih h with later | h
    · exact .inl (List.mem_cons_of_mem _ later)
    · rcases mem_insertSorted h with rfl | before
      · exact .inl List.mem_cons_self
      · exact .inr before

def lookup (registry : Registry) (name : String) : Option Rule :=
  registry.rules.find? fun rule => rule.name == name

/-- Remove the rule of a name; yields the rule that was removed. -/
def erase (registry : Registry) (name : String) : Option Rule × Registry :=
  (registry.lookup name,
    ⟨registry.rules.filter fun rule => rule.name != name, registry.sorted.filter _⟩)

def contains (registry : Registry) (name : String) : Bool :=
  (registry.lookup name).isSome

def names (registry : Registry) : List String :=
  registry.rules.map (·.name)

def size (registry : Registry) : Nat := registry.rules.length

def isEmpty (registry : Registry) : Bool := registry.rules.isEmpty

/-- The built-in rules, for a clock that shows the given time. -/
def builtin (now : Calendar.Instant) : Registry :=
  [Checks.RequiredProperties.rule, Checks.DateRange.rule now, Checks.Readability.rule,
    Checks.Spelling.rule, Checks.WriteGood.rule].foldl insert empty

def text (registry : Registry) : String :=
  "RuleRegistry \x7b rules: [" ++ ", ".intercalate (registry.names.map Text.quoted) ++ "] \x7d"

end Registry
end DocLint
