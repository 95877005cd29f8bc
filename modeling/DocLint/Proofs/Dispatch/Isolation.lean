import DocLint.Proofs.Dispatch.Preparation

/-!
# Isolation of checks

What a check adds to the results for a document depends on that check alone: on its own rule, its
own filter and its own settings. A rule that fails or crashes costs the result of its own check,
which says so, and no other.
-/
namespace DocLint

namespace CheckConfig

def answerFor (c : CheckConfig) (document : Document) (error : RuleError) : CheckResult where
  status := .failure
  check := c.name
  file := document.file
  message := "Failed to execute check [" ++ c.name ++ "], message: " ++ error.message
  detail := some (.object [("kind", .string error.kind), ("message", .string error.message)])

/-- The result that a check gives for a document, by how its rule ends. -/
def answer (c : CheckConfig) (document : Document) : Outcome → CheckResult
  | .completed result =>
    { result with
      check := if result.check = "" then c.name else result.check
      file := if result.file = "" then document.file else result.file }
  | .failed error => c.answerFor document error
  | .crashed (some text) => c.answerFor document (.other text)
  | .crashed none => c.answerFor document (.other "rule panicked")

end CheckConfig

theorem PreparedCheck.run_eq_answer (files : FileTree) (c : CheckConfig) (rule : Rule)
    (filter : PathFilter) (settings : Json) (document : Document) :
    PreparedCheck.run files ⟨c.name, rule, filter, settings⟩ document =
      c.answer document (rule.check files document settings) := by
  simp only [run]
  cases rule.check files document settings with
  | completed result =>
    simp only [failure, complete, CheckConfig.answer, beq_iff_eq]
  | failed error => rfl
  | crashed payload => cases payload <;> rfl

theorem runAll_cons (files : FileTree) (check : PreparedCheck) (rest : List PreparedCheck)
    (document : Document) :
    runAll files (check :: rest) document =
      runAll files [check] document ++ runAll files rest document := by
  rw [runAll, runAll, runAll, ← List.map_append, ← List.filter_append, List.singleton_append]

theorem runAll_singleton (files : FileTree) (check : PreparedCheck) (document : Document) :
    runAll files [check] document =
      if check.filter.admits document.file then [check.run files document] else [] := by
  rw [runAll, List.filter_singleton]
  cases check.filter.admits document.file <;> rfl

section
variable (files : FileTree) (registry : Registry) (document : Document)

/-- What a check adds to the results for a document if it is the only one. -/
def contribution (c : CheckConfig) : List CheckResult :=
  match prepare registry [c] with
  | .ok checks => runAll files checks document
  | .error _ => []

def labelledResults (configs : List CheckConfig) : List (String × CheckResult) :=
  configs.flatMap fun c => (contribution files registry document c).map (c.name, ·)

variable {registry}

theorem contribution_of_prepared {c : CheckConfig} {check : PreparedCheck}
    (prepared : PreparedCheck.ofConfig registry c = .ok check) :
    contribution files registry document c = runAll files [check] document := by
  have alone : prepare registry [c] = .ok [check] :=
    prepare_eq_ok_iff.mpr ⟨List.cons_ne_nil c [], .cons prepared .nil⟩
  rw [contribution, alone]

/-- The filter decides whether a check contributes, and then its rule decides what. -/
theorem contribution_eq {c : CheckConfig} {rule : Rule} {filter : PathFilter}
    (found : registry.lookup c.name = some rule) (read : c.filter = .ok filter) :
    contribution files registry document c =
      if filter.admits document.file then
        [c.answer document (rule.check files document (c.settings.getD (.object [])))]
      else [] := by
  have prepared := PreparedCheck.ofConfig_eq_ok_iff.mpr ⟨rule, filter, found, read, rfl⟩
  rw [contribution_of_prepared files document prepared, runAll_singleton,
    PreparedCheck.run_eq_answer]

theorem contribution_congr {other : Registry} {c : CheckConfig}
    (same : other.lookup c.name = registry.lookup c.name) :
    contribution files other document c = contribution files registry document c := by
  have alike : PreparedCheck.ofConfig other c = PreparedCheck.ofConfig registry c := by
    rw [PreparedCheck.ofConfig, PreparedCheck.ofConfig, same]
  have prepared : prepare other [c] = prepare registry [c] := by
    simp only [prepare, List.mapM_cons, alike, List.mapM_nil]
  rw [contribution, contribution, prepared]

theorem runAll_eq_flatMap {configs : List CheckConfig} {checks : List PreparedCheck}
    (accepted : prepare registry configs = .ok checks) :
    runAll files checks document = configs.flatMap (contribution files registry document) := by
  have each := (prepare_eq_ok_iff.mp accepted).2
  clear accepted
  induction each with
  | nil => rfl
  | cons prepared _ ih =>
    rw [runAll_cons, ih, List.flatMap_cons, contribution_of_prepared files document prepared]

theorem map_snd_labelledResults (configs : List CheckConfig) :
    (labelledResults files registry document configs).map (·.2) =
      configs.flatMap (contribution files registry document) := by
  rw [labelledResults, List.map_flatMap]
  simp only [List.map_map, Function.comp_def, List.map_id']

/-- Which checks contribute is up to their filters; the rules of their names have no say in it. -/
theorem labels_labelledResults {other : Registry} {configs : List CheckConfig}
    {checks replaced : List PreparedCheck} (accepted : prepare registry configs = .ok checks)
    (accepts : prepare other configs = .ok replaced) :
    (labelledResults files other document configs).map (·.1) =
      (labelledResults files registry document configs).map (·.1) := by
  simp only [labelledResults, List.map_flatMap, List.map_map, Function.comp_def]
  refine List.flatMap_congr fun c member => ?_
  obtain ⟨rule, filter, found, read⟩ := known_of_prepare accepted member
  obtain ⟨substitute, _, there, _⟩ := known_of_prepare accepts member
  rw [contribution_eq files document found read, contribution_eq files document there read]
  cases filter.admits document.file <;> rfl

theorem unlabelled_labelledResults {other : Registry} {name : String}
    (same : ∀ n, n ≠ name → other.lookup n = registry.lookup n) (configs : List CheckConfig) :
    (labelledResults files other document configs).filter (fun r => r.1 != name) =
      (labelledResults files registry document configs).filter (fun r => r.1 != name) := by
  simp only [labelledResults, List.filter_flatMap, List.filter_map, Function.comp_def]
  refine List.flatMap_congr fun c _ => ?_
  by_cases concerned : c.name = name
  · simp [concerned]
  · rw [contribution_congr files document (same c.name concerned)]

/-- The results for a document are those of each check by itself, in configured order. Replacing
the rule of one name, by whatever, leaves all results under other names as and where they are. -/
theorem runAll_isolates_checks {configs : List CheckConfig} {checks : List PreparedCheck}
    (accepted : prepare registry configs = .ok checks) :
    runAll files checks document = configs.flatMap (contribution files registry document) ∧
    (∀ c ∈ configs, ∃ rule filter,
      registry.lookup c.name = some rule ∧ c.filter = .ok filter ∧
      contribution files registry document c =
        if filter.admits document.file then
          [c.answer document (rule.check files document (c.settings.getD (.object [])))]
        else []) ∧
    ∀ (other : Registry) (name : String),
      (∀ n, n ≠ name → other.lookup n = registry.lookup n) →
      other.contains name = registry.contains name →
      ∃ replaced, prepare other configs = .ok replaced ∧
        runAll files checks document =
          (labelledResults files registry document configs).map (·.2) ∧
        runAll files replaced document =
          (labelledResults files other document configs).map (·.2) ∧
        (labelledResults files other document configs).map (·.1) =
          (labelledResults files registry document configs).map (·.1) ∧
        (labelledResults files other document configs).filter (fun r => r.1 != name) =
          (labelledResults files registry document configs).filter (fun r => r.1 != name) := by
  have whole := runAll_eq_flatMap files document accepted
  refine ⟨whole, ?each, ?replace⟩
  case each =>
    intro c member
    obtain ⟨rule, filter, found, read⟩ := known_of_prepare accepted member
    exact ⟨rule, filter, found, read, contribution_eq files document found read⟩
  case replace =>
    intro other name same kept
    have known : other.contains = registry.contains := by
      funext n
      by_cases concerned : n = name
      · rw [concerned, kept]
      · rw [Registry.contains, Registry.contains, same n concerned]
    obtain ⟨replaced, accepts⟩ := prepare_of_contains accepted known
    refine ⟨replaced, accepts, ?_, ?_, labels_labelledResults files document accepted accepts,
      unlabelled_labelledResults files document same configs⟩
    · rw [whole, map_snd_labelledResults]
    · rw [runAll_eq_flatMap files document accepts, map_snd_labelledResults]

end

private def tidy : Rule := ⟨"Tidy", fun _ _ _ => .completed ⟨.info, "", "", "fine", none⟩⟩

private def roughAs (ending : Outcome) : Registry where
  rules := [⟨"Rough", fun _ _ _ => ending⟩, tidy]
  sorted := List.pairwise_pair.mpr (by decide : "Rough" < "Tidy")

private theorem lookup_roughAs (ending : Outcome) {name : String} (different : name ≠ "Rough") :
    (roughAs ending).lookup name = if "Tidy" = name then some tidy else none := by
  rw [Registry.lookup, roughAs]
  by_cases same : "Tidy" = name <;> simp [same, tidy, different.symm]

private def roughTwice : List CheckConfig :=
  [{ name := "Rough" }, { name := "Tidy" }, { name := "Tidy", excludePattern := some "a" },
    { name := "Rough", includePattern := some "a" }]

private def noFiles : FileTree := ⟨.directory [], []⟩

private def blankDocument : Document := ⟨"a.md", [], "", "", []⟩

private def boom : Outcome := .crashed (some "boom")

private def mended : Outcome := .completed ⟨.warn, "Smooth", "b.md", "mended", none⟩

theorem runAll_isolates_crash :
    ∃ checks replaced,
      prepare (roughAs boom) roughTwice = .ok checks ∧
      (∀ n, n ≠ "Rough" → (roughAs mended).lookup n = (roughAs boom).lookup n) ∧
      (roughAs mended).contains "Rough" = (roughAs boom).contains "Rough" ∧
      prepare (roughAs mended) roughTwice = .ok replaced ∧
      (runAll noFiles replaced blankDocument).map (·.message) = ["mended", "fine", "mended"] ∧
      (labelledResults noFiles (roughAs mended) blankDocument roughTwice).map (·.1) =
        (labelledResults noFiles (roughAs boom) blankDocument roughTwice).map (·.1) := by
  have same : ∀ n, n ≠ "Rough" → (roughAs mended).lookup n = (roughAs boom).lookup n :=
    fun n different => (lookup_roughAs mended different).trans (lookup_roughAs boom different).symm
  have kept : (roughAs mended).contains "Rough" = (roughAs boom).contains "Rough" := rfl
  have prepares : (prepare (roughAs boom) roughTwice).toBool = true := rfl
  cases prepared : prepare (roughAs boom) roughTwice with
  | error e => rw [prepared] at prepares; cases prepares
  | ok checks =>
    obtain ⟨_, _, replace⟩ := runAll_isolates_checks noFiles blankDocument prepared
    obtain ⟨replaced, accepts, _, results, labels, _⟩ := replace (roughAs mended) "Rough" same kept
    refine ⟨checks, replaced, rfl, same, kept, accepts, ?_, labels⟩
    rw [results]
    rfl

end DocLint
