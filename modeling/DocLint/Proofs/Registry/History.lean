import DocLint.Proofs.Dispatch.Preparation
import DocLint.Proofs.Text.ByteOrder

/-!
# Registries over their history

A registry is a finite map from names to rules. Whatever was registered and removed before, it
holds under a name the rule that was registered last, unless the name was removed since; all that
can be asked of a registry, and the preparing of checks, agrees with that.
-/
namespace DocLint.Registry

/-- A change to a registry, made by itself or by the validator that owns it. -/
inductive Change where
  | register (rule : Rule)
  | unregister (name : String)
  | unregisterRule (rule : Rule)
  | addRule (rule : Rule)
  | removeRule (name : String)

namespace Change

def name : Change → String
  | register rule => rule.name
  | unregister name => name
  | unregisterRule rule => rule.name
  | addRule rule => rule.name
  | removeRule name => name

/-- The rule that a change puts under its name; a removal puts none there. -/
def registered? : Change → Option Rule
  | register rule => some rule
  | addRule rule => some rule
  | unregister _ => none
  | unregisterRule _ => none
  | removeRule _ => none

def apply (change : Change) (registry : Registry) : Option Rule × Registry :=
  match change with
  | register rule => (none, registry.insert rule)
  | unregister name => registry.erase name
  | unregisterRule rule => registry.erase rule.name
  | addRule rule => (none, registry.insert rule)
  | removeRule name => registry.erase name

end Change

def after (start : Registry) (changes : List Change) : Registry :=
  changes.foldl (fun registry change => (change.apply registry).2) start

def answers : Registry → List Change → List (Option Rule)
  | _, [] => []
  | registry, change :: rest =>
    (change.apply registry).1 :: answers (change.apply registry).2 rest

/-- A rule was registered under a name, by a change or before all of them, and no change since was
about that name. -/
def Current (start : Registry) (changes : List Change) (name : String) (rule : Rule) : Prop :=
  (∃ before change later, changes = before ++ change :: later ∧ change.name = name ∧
    change.registered? = some rule ∧ ∀ c ∈ later, c.name ≠ name) ∨
  (start.lookup name = some rule ∧ ∀ c ∈ changes, c.name ≠ name)

/-! ### One change -/

theorem find?_insertSorted (rule : Rule) (rules : List Rule) (name : String) :
    (insertSorted rule rules).find? (fun r => r.name == name) =
      if rule.name = name then some rule else rules.find? fun r => r.name == name := by
  fun_induction insertSorted rule rules with
  | case1 => by_cases same : rule.name = name <;> simp [same]
  | case2 r rest _ => by_cases same : rule.name = name <;> simp [same]
  | case3 r rest _ replaced =>
    have taken : rule.name = r.name := eq_of_beq replaced
    by_cases same : rule.name = name <;> simp [← taken, same]
  | case4 r rest _ other ih =>
    have different : rule.name ≠ r.name := fun taken => other (beq_iff_eq.mpr taken)
    by_cases found : r.name = name
    · simp [found, found ▸ different]
    · simpa [found] using ih

theorem lookup_insert (registry : Registry) (rule : Rule) (name : String) :
    (registry.insert rule).lookup name =
      if rule.name = name then some rule else registry.lookup name :=
  find?_insertSorted rule registry.rules name

theorem lookup_erase (registry : Registry) (removed name : String) :
    (registry.erase removed).2.lookup name =
      if removed = name then none else registry.lookup name := by
  rw [erase, lookup, List.find?_filter, lookup]
  by_cases same : removed = name
  · rw [if_pos same, List.find?_eq_none]
    intro rule _
    simp [same]
  · rw [if_neg same]
    congr 1
    funext rule
    by_cases found : rule.name = name <;> simp [found, Ne.symm same]

/-- A change settles what is found under its name, and leaves all else as it is. -/
theorem lookup_apply (change : Change) (registry : Registry) (name : String) :
    (change.apply registry).2.lookup name =
      if change.name = name then change.registered? else registry.lookup name := by
  cases change with
  | register rule => exact lookup_insert registry rule name
  | unregister removed => exact lookup_erase registry removed name
  | unregisterRule rule => exact lookup_erase registry rule.name name
  | addRule rule => exact lookup_insert registry rule name
  | removeRule removed => exact lookup_erase registry removed name

/-- A removal yields what was found under its name, and a registration yields nothing. -/
theorem apply_fst (change : Change) (registry : Registry) :
    (change.apply registry).1 =
      if change.registered?.isNone then registry.lookup change.name else none := by
  cases change <;> rfl

/-! ### All changes -/

theorem after_cons (start : Registry) (change : Change) (rest : List Change) :
    start.after (change :: rest) = (change.apply start).2.after rest :=
  rfl

/-- What the first change leaves is the start for the later ones. -/
theorem current_cons_iff (start : Registry) (change : Change) (rest : List Change) (name : String)
    (rule : Rule) :
    Current start (change :: rest) name rule ↔
      Current (change.apply start).2 rest name rule := by
  constructor
  · rintro (⟨before, last, later, split, named, registered, quiet⟩ | ⟨found, quiet⟩)
    · cases before with
      | nil =>
        obtain ⟨rfl, rfl⟩ := List.cons.inj split
        exact .inr ⟨by rw [lookup_apply, if_pos named, registered], quiet⟩
      | cons first before =>
        obtain ⟨rfl, rfl⟩ := List.cons.inj split
        exact .inl ⟨before, last, later, rfl, named, registered, quiet⟩
    · rw [List.forall_mem_cons] at quiet
      exact .inr ⟨by rw [lookup_apply, if_neg quiet.1, found], quiet.2⟩
  · rintro (⟨before, last, later, rfl, named, registered, quiet⟩ | ⟨found, quiet⟩)
    · exact .inl ⟨change :: before, last, later, rfl, named, registered, quiet⟩
    · rw [lookup_apply] at found
      by_cases concerned : change.name = name
      · rw [if_pos concerned] at found
        exact .inl ⟨[], change, rest, rfl, concerned, found, quiet⟩
      · rw [if_neg concerned] at found
        exact .inr ⟨found, List.forall_mem_cons.mpr ⟨concerned, quiet⟩⟩

/-- Looking a name up yields what is current under it. -/
theorem lookup_after_iff (start : Registry) (changes : List Change) (name : String) (rule : Rule) :
    (start.after changes).lookup name = some rule ↔ Current start changes name rule := by
  induction changes generalizing start with
  | nil =>
    refine ⟨fun found => .inr ⟨found, by simp⟩, ?_⟩
    rintro (⟨before, last, later, split, _⟩ | ⟨found, _⟩)
    · simp at split
    · exact found
  | cons change rest ih => rw [current_cons_iff, ← ih (change.apply start).2, after_cons]

theorem answers_of_split (start : Registry) (before later : List Change) (change : Change) :
    (answers start (before ++ change :: later))[before.length]? =
      some (change.apply (start.after before)).1 := by
  induction before generalizing start with
  | nil => rfl
  | cons first before ih =>
    rw [List.cons_append, answers, List.length_cons, List.getElem?_cons_succ, ih, after_cons]

theorem length_answers (start : Registry) (changes : List Change) :
    (answers start changes).length = changes.length := by
  induction changes generalizing start with
  | nil => rfl
  | cons change rest ih => rw [answers, List.length_cons, ih, List.length_cons]

/-! ### What can be asked -/

variable (registry : Registry)

theorem mem_names_iff (name : String) : name ∈ registry.names ↔ registry.contains name = true := by
  rw [names, List.mem_map, contains, lookup, List.find?_isSome]
  exact exists_congr fun rule => and_congr_right fun _ => beq_iff_eq.symm

theorem contains_iff (name : String) :
    registry.contains name = true ↔ ∃ rule, registry.lookup name = some rule :=
  Option.isSome_iff_exists

theorem pairwise_names :
    registry.names.Pairwise fun a b => Text.encodeUtf8 a < Text.encodeUtf8 b := by
  rw [names, List.pairwise_map]
  exact registry.sorted.imp fun less => Text.encodeUtf8_lt_iff.mpr less

theorem isEmpty_iff : registry.isEmpty = true ↔ registry.size = 0 := by
  rw [isEmpty, size, List.isEmpty_iff, List.length_eq_zero_iff]

/-- Preparing checks whose patterns can be read fails only for want of a check or of a rule. -/
theorem exists_prepare_iff {configs : List CheckConfig}
    (readable : ∀ c ∈ configs, ¬ Unreadable c.includePattern ∧ ¬ Unreadable c.excludePattern) :
    (∃ checks, prepare registry configs = .ok checks) ↔
      configs ≠ [] ∧ ∀ c ∈ configs, c.name ∈ registry.names := by
  rw [(reports_prepare registry configs).exists_ok_iff, ← not_iff_not,
    ← ne_eq (checkFaults _ _), checkFaults_ne_nil_iff, not_and_or, not_not, not_forall]
  refine or_congr_right (exists_congr fun c => ?_)
  rw [Classical.not_imp, mem_names_iff, Bool.not_eq_true]
  refine and_congr_right fun member => ?_
  obtain ⟨included, excluded⟩ := readable c member
  simp [included, excluded]

theorem bound_of_prepare {configs : List CheckConfig} {checks : List PreparedCheck}
    (accepted : prepare registry configs = .ok checks) :
    List.Forall₂ (fun config check =>
      check.name = config.name ∧ registry.lookup config.name = some check.rule) configs checks := by
  refine (prepare_eq_ok_iff.mp accepted).2.imp fun config check prepared => ?_
  obtain ⟨rule, filter, found, -, rfl⟩ := PreparedCheck.ofConfig_eq_ok_iff.mp prepared
  exact ⟨rfl, found⟩

/-- After any changes to any registry, a name has the rule that was registered last under it, if it
was not removed since. A removal yields the rule that was there right before it, the names are those
that have a rule, in the order of their bytes, and checks are prepared with the current rules. -/
theorem after_keeps_latest (start : Registry) (changes : List Change) :
    (∀ name rule, (start.after changes).lookup name = some rule ↔
      Current start changes name rule) ∧
    (answers start changes).length = changes.length ∧
    (∀ before change later, changes = before ++ change :: later → change.registered? = none →
      (answers start changes)[before.length]? =
        some ((start.after before).lookup change.name)) ∧
    (start.after changes).names.Pairwise (fun a b => Text.encodeUtf8 a < Text.encodeUtf8 b) ∧
    (∀ name, name ∈ (start.after changes).names ↔
      (start.after changes).contains name = true) ∧
    (∀ name, (start.after changes).contains name = true ↔
      ∃ rule, (start.after changes).lookup name = some rule) ∧
    (start.after changes).size = (start.after changes).names.length ∧
    ((start.after changes).isEmpty = true ↔ (start.after changes).size = 0) ∧
    (∀ configs : List CheckConfig,
      (∀ c ∈ configs, ¬ Unreadable c.includePattern ∧ ¬ Unreadable c.excludePattern) →
      ((∃ checks, prepare (start.after changes) configs = .ok checks) ↔
        configs ≠ [] ∧ ∀ c ∈ configs, c.name ∈ (start.after changes).names)) ∧
    (∀ configs checks, prepare (start.after changes) configs = .ok checks →
      List.Forall₂ (fun config check =>
        check.name = config.name ∧ Current start changes config.name check.rule)
        configs checks) := by
  refine ⟨lookup_after_iff start changes, length_answers start changes, ?removal,
    pairwise_names _, mem_names_iff _, contains_iff _, (List.length_map _).symm, isEmpty_iff _,
    fun configs readable => exists_prepare_iff _ readable, ?bound⟩
  case removal =>
    intro before change later split removes
    rw [split, answers_of_split, apply_fst, removes, Option.isNone_none, if_pos rfl]
  case bound =>
    intro configs checks accepted
    exact (bound_of_prepare _ accepted).imp fun config check both =>
      ⟨both.1, (lookup_after_iff start changes _ _).mp both.2⟩

private def probe (message : String) : Rule :=
  ⟨"Probe", fun _ _ _ => .completed ⟨.info, "", "", message, none⟩⟩

private def probeChanges : List Change :=
  [.register (probe "old"), .addRule (probe "new"), .unregisterRule (probe "other"),
    .removeRule "Absent", .addRule (probe "again")]

theorem after_keeps_probe :
    (answers empty probeChanges)[2]? = some (some (probe "new")) ∧
    (answers empty probeChanges)[3]? = some none ∧
    (empty.after probeChanges).lookup "Probe" = some (probe "again") ∧
    ∃ checks, prepare (empty.after probeChanges) [{ name := "Probe" }] = .ok checks ∧
      checks.map (·.rule) = [probe "again"] := by
  obtain ⟨current, -, removal, -, -, -, -, -, accepts, bound⟩ :=
    after_keeps_latest empty probeChanges
  have again : Current empty probeChanges "Probe" (probe "again") :=
    .inl ⟨probeChanges.take 4, .addRule (probe "again"), [], rfl, rfl, rfl, by simp⟩
  obtain ⟨checks, accepted⟩ := (accepts [{ name := "Probe" }] (by simp [Unreadable])).mpr
    ⟨by simp, by simp; decide⟩
  refine ⟨removal (probeChanges.take 2) (.unregisterRule (probe "other"))
    (probeChanges.drop 3) rfl rfl, removal (probeChanges.take 3) (.removeRule "Absent")
    (probeChanges.drop 4) rfl rfl, (current "Probe" _).mpr again, checks, accepted, ?_⟩
  cases bound _ checks accepted with
  | @cons _ check _ _ both rest =>
    cases rest
    have same := ((current "Probe" _).mpr again).symm.trans ((current "Probe" _).mpr both.2)
    rw [List.map_singleton, Option.some.inj same]

end DocLint.Registry
