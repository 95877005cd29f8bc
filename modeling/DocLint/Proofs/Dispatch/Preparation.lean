import DocLint.Dispatch
import DocLint.Proofs.FirstFault

/-!
# Preparing checks

What is wrong with the checks of a configuration, as a list in order of precedence, and what is
known about checks that were prepared. Whether preparing fails depends on which names are
registered and which patterns can be read, not on what the rules do.
-/
namespace DocLint

def Unreadable (pattern : Option String) : Prop :=
  ∃ text reason, pattern = some text ∧ Pattern.read text = .error reason

namespace PathFilter

def patternFaults (field : String) : Option String → List SetupError
  | none => []
  | some text =>
    match Pattern.read text with
    | .ok _ => []
    | .error reason => [.invalidPattern field text reason]

def faults (required forbidden : Option String) : List SetupError :=
  patternFaults "include" required ++ patternFaults "exclude" forbidden

theorem reports_readPattern (field : String) (pattern : Option String) :
    Reports (readPattern field pattern) (patternFaults field pattern) := by
  cases pattern with
  | none => exact reports_ok none
  | some text =>
    rw [readPattern, patternFaults]
    cases Pattern.read text with
    | ok p => exact reports_ok (some p)
    | error reason => exact reports_error _ []

theorem reports_ofPatterns (required forbidden : Option String) :
    Reports (ofPatterns required forbidden) (faults required forbidden) :=
  (reports_readPattern "include" required).bind fun r _ =>
    (reports_readPattern "exclude" forbidden).bind_pure (PathFilter.mk r)

theorem patternFaults_ne_nil_iff (field : String) (pattern : Option String) :
    patternFaults field pattern ≠ [] ↔ Unreadable pattern := by
  cases pattern with
  | none => exact iff_of_false (fun h => h rfl) fun ⟨_, _, absent, _⟩ => by cases absent
  | some text =>
    rw [patternFaults]
    cases read : Pattern.read text with
    | ok p =>
      refine iff_of_false (fun h => h rfl) ?_
      rintro ⟨_, _, ⟨rfl⟩, unreadable⟩
      rw [read] at unreadable
      cases unreadable
    | error reason =>
      exact iff_of_true (List.cons_ne_nil _ _) ⟨text, reason, rfl, read⟩

theorem faults_ne_nil_iff (required forbidden : Option String) :
    faults required forbidden ≠ [] ↔ Unreadable required ∨ Unreadable forbidden := by
  rw [faults, ne_eq, List.append_eq_nil_iff, not_and_or]
  exact or_congr (patternFaults_ne_nil_iff "include" required)
    (patternFaults_ne_nil_iff "exclude" forbidden)

end PathFilter

namespace CheckConfig

def faults (known : String → Bool) (c : CheckConfig) : List SetupError :=
  (if known c.name then [] else [.unknownRule c.name]) ++
    PathFilter.faults c.includePattern c.excludePattern

theorem faults_ne_nil_iff (known : String → Bool) (c : CheckConfig) :
    c.faults known ≠ [] ↔
      known c.name = false ∨ Unreadable c.includePattern ∨ Unreadable c.excludePattern := by
  rw [faults, ne_eq, List.append_eq_nil_iff, not_and_or]
  refine or_congr ?_ (PathFilter.faults_ne_nil_iff _ _)
  cases known c.name <;> simp

end CheckConfig

/-- What is wrong with a list of checks, for the given registered names. -/
def checkFaults (known : String → Bool) (configs : List CheckConfig) : List SetupError :=
  (if configs.isEmpty then [.noChecks] else []) ++ configs.flatMap (CheckConfig.faults known)

theorem checkFaults_ne_nil_iff (known : String → Bool) (configs : List CheckConfig) :
    checkFaults known configs ≠ [] ↔ configs = [] ∨ ∃ c ∈ configs,
      known c.name = false ∨ Unreadable c.includePattern ∨ Unreadable c.excludePattern := by
  rw [checkFaults, ne_eq, List.append_eq_nil_iff, not_and_or]
  refine or_congr ?_ ?_
  · cases configs <;> simp
  · rw [List.flatMap_eq_nil_iff, not_forall]
    refine exists_congr fun c => ?_
    rw [Classical.not_imp]
    exact and_congr_right fun _ => CheckConfig.faults_ne_nil_iff known c

namespace PreparedCheck

theorem ofConfig_of_unknown {registry : Registry} {config : CheckConfig}
    (unknown : registry.lookup config.name = none) :
    ofConfig registry config = .error (.unknownRule config.name) := by
  rw [ofConfig, unknown]

theorem ofConfig_of_known {registry : Registry} {config : CheckConfig} {rule : Rule}
    (known : registry.lookup config.name = some rule) :
    ofConfig registry config = config.filter.map fun filter =>
      ⟨config.name, rule, filter, config.settings.getD (.object [])⟩ := by
  rw [ofConfig, known]
  cases config.filter <;> rfl

theorem reports_ofConfig (registry : Registry) (config : CheckConfig) :
    Reports (ofConfig registry config) (config.faults registry.contains) := by
  rw [CheckConfig.faults, Registry.contains]
  cases found : registry.lookup config.name with
  | none =>
    rw [ofConfig_of_unknown found]
    exact reports_error _ _
  | some rule =>
    rw [ofConfig_of_known found]
    exact (PathFilter.reports_ofPatterns _ _).map _

/-- A check is prepared from its rule, its filter and its settings, an empty object by default. -/
theorem ofConfig_eq_ok_iff {registry : Registry} {config : CheckConfig} {check : PreparedCheck} :
    ofConfig registry config = .ok check ↔
      ∃ rule filter, registry.lookup config.name = some rule ∧ config.filter = .ok filter ∧
        check = ⟨config.name, rule, filter, config.settings.getD (.object [])⟩ := by
  constructor
  · intro prepared
    cases found : registry.lookup config.name with
    | none => rw [ofConfig_of_unknown found] at prepared; cases prepared
    | some rule =>
      rw [ofConfig_of_known found] at prepared
      cases read : config.filter with
      | error e => rw [read] at prepared; cases prepared
      | ok filter =>
        rw [read] at prepared
        exact ⟨rule, filter, rfl, rfl, (Except.ok.inj prepared).symm⟩
  · rintro ⟨rule, filter, found, read, rfl⟩
    rw [ofConfig_of_known found, read]
    rfl

end PreparedCheck

theorem reports_prepare (registry : Registry) (configs : List CheckConfig) :
    Reports (prepare registry configs) (checkFaults registry.contains configs) := by
  rw [prepare, checkFaults]
  cases configs with
  | nil => exact reports_error _ _
  | cons config rest => exact reports_mapM (PreparedCheck.reports_ofConfig registry) _

theorem prepare_eq_ok_iff {registry : Registry} {configs : List CheckConfig}
    {checks : List PreparedCheck} :
    prepare registry configs = .ok checks ↔ configs ≠ [] ∧
      List.Forall₂ (fun config check => PreparedCheck.ofConfig registry config = .ok check)
        configs checks := by
  rw [prepare]
  cases configs with
  | nil => exact iff_of_false (fun same => by cases same) fun both => both.1 rfl
  | cons config rest =>
    rw [← mapM_eq_ok_iff]
    exact (and_iff_right (List.cons_ne_nil config rest)).symm

/-- Every check of an accepted list has its rule and its filter. -/
theorem known_of_prepare {registry : Registry} {configs : List CheckConfig}
    {checks : List PreparedCheck} (accepted : prepare registry configs = .ok checks)
    {c : CheckConfig} (member : c ∈ configs) :
    ∃ rule filter, registry.lookup c.name = some rule ∧ c.filter = .ok filter := by
  have faultless := (reports_prepare registry configs).exists_ok_iff.mp ⟨checks, accepted⟩
  have sound := List.flatMap_eq_nil_iff.mp (List.append_eq_nil_iff.mp faultless).2 c member
  obtain ⟨check, prepared⟩ := (PreparedCheck.reports_ofConfig registry c).exists_ok_iff.mpr sound
  obtain ⟨rule, filter, found, read, _⟩ := PreparedCheck.ofConfig_eq_ok_iff.mp prepared
  exact ⟨rule, filter, found, read⟩

/-- Preparing looks at the rule of a name only to see that there is one. -/
theorem prepare_of_contains {registry other : Registry} {configs : List CheckConfig}
    {checks : List PreparedCheck} (accepted : prepare registry configs = .ok checks)
    (known : other.contains = registry.contains) :
    ∃ replaced, prepare other configs = .ok replaced := by
  have faultless := (reports_prepare registry configs).exists_ok_iff.mp ⟨checks, accepted⟩
  rw [← known] at faultless
  exact (reports_prepare other configs).exists_ok_iff.mpr faultless

end DocLint
