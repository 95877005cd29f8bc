import DocLint.Proofs.Scope.Separation
import DocLint.Proofs.Validation.Coverage
import DocLint.Proofs.Validation.Reordering

/-!
# Files do not influence each other

What a run reports on a file does not depend on any other file: if one file is added, changed or
removed, the entries of the others stay as they are, and so does their order. Only what the checks
themselves read, such as a dictionary, has to be looked up elsewhere.
-/
namespace DocLint

/-! ### What checks read -/

/-- A rule whose outcome under some settings depends on the document and on what is read at some
paths. A rule that depends on the document and the settings alone reads at no path. -/
def Rule.ReadsOnly (rule : Rule) (settings : Json) (paths : List String) : Prop :=
  ∀ t₁ t₂ : FileTree, (∀ path ∈ paths, t₁.readText path = t₂.readText path) →
    ∀ document, rule.check t₁ document settings = rule.check t₂ document settings

def Checks.Spelling.dictionaries (settings : Json) : List String :=
  match decode settings with
  | .ok settings => [settings.dictionary.getD defaultDictionary]
  | .error _ => []

theorem Checks.Spelling.readsOnly_dictionaries (settings : Json) :
    rule.ReadsOnly settings (dictionaries settings) := by
  intro t₁ t₂ alike document
  rw [dictionaries] at alike
  simp only [rule, check, parseSettings]
  cases decoded : decode settings with
  | error e => rfl
  | ok read =>
    rw [decoded] at alike
    have text := alike _ (List.mem_singleton.mpr rfl)
    simp only [Except.mapError, bind, Except.bind, text]

/-- What the configured checks read is looked up without coming by a place, in both of two trees. -/
def ReadElsewhere (registry : Registry) (configs : List CheckConfig) (there : List String)
    (t₁ t₂ : FileTree) : Prop :=
  ∀ config ∈ configs, ∀ rule, registry.lookup config.name = some rule →
    ∃ paths, rule.ReadsOnly (config.settings.getD (.object [])) paths ∧
      ∀ path ∈ paths, t₁.Avoids there path ∧ t₂.Avoids there path

/-- Rules that are functions of the document and the settings read nothing at all. -/
theorem readElsewhere_of_pure {registry : Registry} (pure : ∀ rule ∈ registry.rules,
    ∀ t₁ t₂ document settings,
      rule.check t₁ document settings = rule.check t₂ document settings)
    (configs : List CheckConfig) (there : List String) (t₁ t₂ : FileTree) :
    ReadElsewhere registry configs there t₁ t₂ := by
  intro config _ rule known
  have member : rule ∈ registry.rules := List.mem_of_find?_eq_some known
  exact ⟨[], fun s₁ s₂ _ document => pure rule member s₁ s₂ document _, by simp⟩

/-- The built-in rules read nothing but the dictionaries that the settings of spelling name. -/
theorem readElsewhere_of_builtin (now : Calendar.Instant) {configs : List CheckConfig}
    {there : List String} {t₁ t₂ : FileTree}
    (avoids : ∀ config ∈ configs, config.name = Checks.Spelling.name →
      ∀ path ∈ Checks.Spelling.dictionaries (config.settings.getD (.object [])),
        t₁.Avoids there path ∧ t₂.Avoids there path) :
    ReadElsewhere (Registry.builtin now) configs there t₁ t₂ := by
  intro config configured rule known
  have named : rule.name = config.name := by simpa using List.find?_some known
  rcases Registry.mem_foldl_insert (List.mem_of_find?_eq_some known) with builtin | none
  · simp only [List.mem_cons, List.not_mem_nil, or_false] at builtin
    rcases builtin with rfl | rfl | rfl | rfl | rfl
    case inr.inr.inr.inl =>
      exact ⟨_, Checks.Spelling.readsOnly_dictionaries _, avoids config configured named.symm⟩
    all_goals exact ⟨[], fun _ _ _ _ => rfl, by simp⟩
  · cases none

theorem exists_config_of_prepare {registry : Registry} {configs : List CheckConfig}
    {checks : List PreparedCheck} (prepared : prepare registry configs = .ok checks)
    {check : PreparedCheck} (member : check ∈ checks) :
    ∃ config ∈ configs, PreparedCheck.ofConfig registry config = .ok check := by
  obtain ⟨-, each⟩ := prepare_eq_ok_iff.mp prepared
  clear prepared
  induction each with
  | nil => cases member
  | @cons config first _ _ isFirst _ ih =>
    rcases List.mem_cons.mp member with rfl | later
    · exact ⟨config, List.mem_cons_self, isFirst⟩
    · obtain ⟨config, inside, isCheck⟩ := ih later
      exact ⟨config, List.mem_cons_of_mem _ inside, isCheck⟩

section
variable {registry : Registry} {configs : List CheckConfig} {checks : List PreparedCheck}
  {there found : List String} {t₁ t₂ : FileTree}

theorem runAll_eq (same : t₁.SameBut there t₂)
    (elsewhere : ReadElsewhere registry configs there t₁ t₂)
    (prepared : prepare registry configs = .ok checks) (document : Document) :
    runAll t₁ checks document = runAll t₂ checks document := by
  rw [runAll, runAll]
  refine List.map_congr_left fun check member => ?_
  obtain ⟨config, configured, isCheck⟩ :=
    exists_config_of_prepare prepared (List.mem_of_mem_filter member)
  obtain ⟨rule, filter, known, -, rfl⟩ := PreparedCheck.ofConfig_eq_ok_iff.mp isCheck
  obtain ⟨paths, readsOnly, avoids⟩ := elsewhere config configured rule known
  have outcome := readsOnly t₁ t₂
    (fun path inside => same.readText_eq (avoids path inside).1 (avoids path inside).2) document
  rw [PreparedCheck.run, PreparedCheck.run, outcome]

/-- A file that is not the one in which two trees differ has the same results in both. -/
theorem checkFile_eq (same : t₁.SameBut there t₂)
    (elsewhere : ReadElsewhere registry configs there t₁ t₂)
    (prepared : prepare registry configs = .ok checks) (read : String → Except String Json)
    {path : String} (located : t₁.locate true path = .ok found) (ne : found ≠ there) :
    Surroundings.checkFile ⟨t₁, read⟩ checks path =
      Surroundings.checkFile ⟨t₂, read⟩ checks path := by
  have load : Document.load read t₁ path = Document.load read t₂ path := by
    rw [Document.load, Document.load, same.readBytes_eq located ne]
  rw [Surroundings.checkFile, Surroundings.checkFile, load]
  cases Document.load read t₂ path with
  | error e => rfl
  | ok document => simp only [runAll_eq same elsewhere prepared]

end

/-! ### What a file contributes to a report -/

namespace Summary

def ofResults (results : List FileResult) : Summary :=
  tally results.length ((results.flatMap (·.checks)).map (·.status))

instance : Add Summary where
  add a b := ⟨a.fileCount + b.fileCount, a.failures + b.failures, a.errors + b.errors,
    a.warnings + b.warnings⟩

theorem ofResults_append (results more : List FileResult) :
    ofResults (results ++ more) = ofResults results + ofResults more := by
  simp only [ofResults, tally, List.length_append, List.flatMap_append, List.map_append,
    List.count_append]
  rfl

theorem ofResults_perm {results others : List FileResult} (perm : results.Perm others) :
    ofResults results = ofResults others := by
  rw [ofResults, ofResults, perm.length_eq]
  exact tally_perm ((perm.flatMap_right _).map _) _

end Summary

/-- The entry of a report for the file at a place, if there is one, and the entries of all others;
the counts of the report are the sum of what both contribute. -/
structure Report.Divides (r : Report) (tree : FileTree) (there : List String)
    (others own : List FileResult) : Prop where
  others_eq : r.results.filter (fun entry => !tree.denotes there entry.file) = others
  own_eq : r.results.filter (fun entry => tree.denotes there entry.file) = own
  atMostOne : own.length ≤ 1
  summary_eq : r.summary = Summary.ofResults others + Summary.ofResults own

namespace Surroundings

variable (s : Surroundings) (checks : List PreparedCheck)

theorem filter_results_report (files : List String) (p : String → Bool) :
    (s.report checks files).results.filter (fun entry => p entry.file) =
      (files.filter p).map (s.checkFile checks) := by
  rw [results_report, List.filter_map]
  refine congrArg _ (List.filter_congr fun file _ => ?_)
  rw [Function.comp, (covers_checkFile s checks file).1]

theorem divides_report {files : List String} {there : List String}
    (single : (files.filter (s.files.denotes there)).length ≤ 1) :
    (s.report checks files).Divides s.files there
      ((files.filter fun path => !s.files.denotes there path).map (s.checkFile checks))
      ((files.filter (s.files.denotes there)).map (s.checkFile checks)) where
  others_eq := filter_results_report s checks files fun path => !s.files.denotes there path
  own_eq := filter_results_report s checks files _
  atMostOne := by rwa [List.length_map]
  summary_eq := by
    have perm := (List.filter_append_perm (s.files.denotes there) files).symm.trans
      List.perm_append_comm
    rw [← Summary.ofResults_append, ← List.map_append, ← Summary.ofResults_perm (perm.map _),
      (accounted_report s checks files).summary_tallied, Summary.ofResults, List.length_map,
      Report.checks, results_report]

end Surroundings

section
variable {t₁ t₂ : FileTree} {there start : List String} {base : String}
  {entries entries' : List (String × Node)} {registry : Registry} {configs : List CheckConfig}
  {checks : List PreparedCheck}

/-- The entries of all other files are the same in both trees. -/
theorem map_checkFile_others_eq (same : t₁.SameBut there t₂) (unlinked₁ : t₁.Unlinked there)
    (unlinked₂ : t₂.Unlinked there) (rooted₁ : t₁.Rooted base start entries)
    (rooted₂ : t₂.Rooted base start entries')
    (elsewhere : ReadElsewhere registry configs there t₁ t₂)
    (prepared : prepare registry configs = .ok checks) (read : String → Except String Json)
    (filter : PathFilter) :
    ((Scope.matchingFiles t₁ base filter).filter fun path => !t₁.denotes there path).map
        (Surroundings.checkFile ⟨t₁, read⟩ checks) =
      ((Scope.matchingFiles t₂ base filter).filter fun path => !t₂.denotes there path).map
        (Surroundings.checkFile ⟨t₂, read⟩ checks) := by
  rw [← Scope.others_eq same unlinked₁ unlinked₂ rooted₁ rooted₂ filter]
  refine List.map_congr_left fun path member => ?_
  obtain ⟨listed, other⟩ := List.mem_filter.mp member
  rw [Bool.not_eq_true'] at other
  obtain ⟨-, found, ne, located⟩ :=
    Scope.mem_other_scope same unlinked₁ rooted₁ rooted₂ listed other
  exact checkFile_eq same elsewhere prepared read located ne

/-- Two trees that differ in one file give the same error, or reports that differ in the entry of
that file only, if no link leads to it and no check reads it. -/
theorem validate_separates_files (same : t₁.SameBut there t₂)
    (wellFormed₁ : t₁.root.WellFormed) (wellFormed₂ : t₂.root.WellFormed)
    (unlinked₁ : t₁.Unlinked there) (unlinked₂ : t₂.Unlinked there) {config : Configuration}
    (matching : config.mode = .matching) (noFile₁ : t₁.isFile config.baseDirectory = false)
    (noFile₂ : t₂.isFile config.baseDirectory = false)
    (elsewhere : ReadElsewhere registry config.checks there t₁ t₂)
    (read : String → Except String Json) (vcs : Vcs) :
    (∃ e, validate ⟨t₁, read⟩ vcs registry config = ([], .error e) ∧
      validate ⟨t₂, read⟩ vcs registry config = ([], .error e)) ∨
    ∃ r₁ r₂ others own₁ own₂, validate ⟨t₁, read⟩ vcs registry config = ([], .ok r₁) ∧
      validate ⟨t₂, read⟩ vcs registry config = ([], .ok r₂) ∧
      r₁.Divides t₁ there others own₁ ∧ r₂.Divides t₂ there others own₂ := by
  cases present₁ : t₁.exists? config.baseDirectory with
  | false =>
    have present₂ : t₂.exists? config.baseDirectory = false := by
      rw [← Bool.not_eq_true] at present₁ ⊢
      exact mt (same.symm.exists_of_exists wellFormed₂ wellFormed₁ noFile₂) present₁
    exact .inl ⟨_, validate_of_missing present₁, validate_of_missing present₂⟩
  | true =>
    have present₂ := same.exists_of_exists wellFormed₁ wellFormed₂ noFile₁ present₁
    cases prepared : prepare registry config.checks with
    | error e =>
      exact .inl ⟨e, validate_of_refused present₁ prepared, validate_of_refused present₂ prepared⟩
    | ok checks =>
      rw [validate_of_prepared present₁ prepared, validate_of_prepared present₂ prepared, matching]
      cases filtered : config.modeOptions.fileFilter with
      | error e =>
        rw [Scope.resolve_of_refused present₁ filtered, Scope.resolve_of_refused present₂ filtered]
        exact .inl ⟨e, rfl, rfl⟩
      | ok filter =>
        rw [Scope.resolve_matching present₁ filtered, Scope.resolve_matching present₂ filtered]
        obtain ⟨start, entries, rooted₁⟩ := FileTree.exists_rooted wellFormed₁ present₁ noFile₁
        obtain ⟨entries', rooted₂⟩ := same.rooted wellFormed₂ rooted₁
        have others_eq := map_checkFile_others_eq same unlinked₁ unlinked₂ rooted₁ rooted₂ elsewhere
          prepared read filter
        have divides₁ := Surroundings.divides_report ⟨t₁, read⟩ checks
          (Scope.length_own_le_one rooted₁ unlinked₁ filter)
        have divides₂ := Surroundings.divides_report ⟨t₂, read⟩ checks
          (Scope.length_own_le_one rooted₂ unlinked₂ filter)
        rw [← others_eq] at divides₂
        exact .inr ⟨_, _, _, _, _, rfl, rfl, divides₁, divides₂⟩

end

private def noisy : FileTree where
  root := .directory [("a.md", .file [0x48, 0x69]), ("p.md", .file [0xff]), ("w", .file [0x68])]
  workDir := []

private def noiseless : FileTree where
  root := .directory [("a.md", .file [0x48, 0x69]), ("w", .file [0x68])]
  workDir := []

private def spelled : Configuration where
  checks := [{ name := "Spelling", settings := some (.object [("dictionary", .string "w")]) }]

private theorem noisy_sameBut_noiseless : noisy.SameBut ["p.md"] noiseless where
  workDir_eq := rfl
  elsewhere names ne := by
    cases names with
    | nil => rfl
    | cons name rest =>
      simp only [FileTree.seenAt, noisy, noiseless, Node.at?, Node.child?, List.find?_cons]
      by_cases noise : name = "p.md"
      · subst noise
        cases rest with
        | nil => exact absurd rfl ne
        | cons x xs => rfl
      · have other : ("p.md" == name) = false := beq_eq_false_iff_ne.mpr (Ne.symm noise)
        simp only [other]
  first node found := by
    cases found
    exact ⟨_, rfl⟩
  second node found := by cases found

private theorem wellFormed_noisy : noisy.root.WellFormed :=
  .directory (by decide) (by decide) (by decide) (by simp [Node.WellFormed.file])

private theorem wellFormed_noiseless : noiseless.root.WellFormed :=
  .directory (by decide) (by decide) (by decide) (by simp [Node.WellFormed.file])

/-- In a directory of nothing but files there are no links. -/
private theorem unlinked_of_flat {entries : List (String × Node)}
    (flat : ∀ e ∈ entries, ∃ bytes, e.2 = .file bytes) (workDir there : List String) :
    FileTree.Unlinked ⟨.directory entries, workDir⟩ there := by
  intro directory name target link
  exfalso
  obtain ⟨first, rest, eq⟩ := List.exists_cons_of_ne_nil (l := directory ++ [name]) (by simp)
  rw [eq] at link
  obtain ⟨child, isChild, last⟩ := Node.at?_cons.mp link
  obtain ⟨bytes, isFile⟩ := flat _ (Node.mem_of_child? isChild)
  cases isFile
  cases rest <;> cases last

private theorem avoids_words {tree : FileTree} {bytes : List UInt8} (workDir : tree.workDir = [])
    (isFile : tree.root.at? ["w"] = some (.file bytes)) : tree.Avoids ["p.md"] "w" := by
  have steps_eq : FileTree.steps "w" = ["w"] := rfl
  have origin_eq : tree.origin "w" = [] := by
    rw [FileTree.origin, workDir]
    rfl
  rw [FileTree.Avoids, steps_eq, origin_eq]
  generalize word : "w" = step at isFile ⊢
  intro visits
  cases visits with
  | step first next =>
    cases first with
    | here => exact absurd word (by decide)
    | up => exact absurd word (by decide)
    | into =>
      cases next
      exact absurd word (by decide)
    | through inside _ _ _ child =>
      have link := (FileTree.at?_reverse_cons inside step).trans child
      cases isFile.symm.trans link

/-- The file that is no text is reported, but changes nothing else. -/
theorem validate_separates_noise :
    noisy.SameBut ["p.md"] noiseless ∧
    ReadElsewhere (Registry.builtin ⟨0, 0⟩) spelled.checks ["p.md"] noisy noiseless ∧
    ∃ r₁ r₂ others own₁ own₂,
      validate ⟨noisy, .error⟩ Vcs.quiet (Registry.builtin ⟨0, 0⟩) spelled = ([], .ok r₁) ∧
      validate ⟨noiseless, .error⟩ Vcs.quiet (Registry.builtin ⟨0, 0⟩) spelled = ([], .ok r₂) ∧
      r₁.results.map (·.file) = ["./a.md", "./p.md"] ∧ r₂.results.map (·.file) = ["./a.md"] ∧
      r₁.Divides noisy ["p.md"] others own₁ ∧ r₂.Divides noiseless ["p.md"] others own₂ := by
  have dictionary :
      Checks.Spelling.dictionaries (.object [("dictionary", .string "w")]) = ["w"] := rfl
  have elsewhere :
      ReadElsewhere (Registry.builtin ⟨0, 0⟩) spelled.checks ["p.md"] noisy noiseless := by
    refine readElsewhere_of_builtin _ (List.forall_mem_singleton.mpr fun _ path named => ?_)
    rw [Option.getD_some, dictionary, List.mem_singleton] at named
    subst named
    exact ⟨avoids_words rfl rfl, avoids_words rfl rfl⟩
  have prepares : (prepare (Registry.builtin ⟨0, 0⟩) spelled.checks).toBool = true := by
    decide +kernel
  have resolved₁ : Scope.resolve noisy Vcs.quiet spelled.baseDirectory spelled.mode
      spelled.modeOptions = ([], .ok ["./a.md", "./p.md"]) := rfl
  have resolved₂ : Scope.resolve noiseless Vcs.quiet spelled.baseDirectory spelled.mode
      spelled.modeOptions = ([], .ok ["./a.md"]) := rfl
  cases prepared : prepare (Registry.builtin ⟨0, 0⟩) spelled.checks with
  | error e => rw [prepared] at prepares; cases prepares
  | ok checks =>
    have done₁ := validate_eq_ok_iff.mpr
      ⟨(rfl : (⟨noisy, .error⟩ : Surroundings).files.exists? spelled.baseDirectory = true),
        checks, _, prepared, resolved₁, rfl⟩
    have done₂ := validate_eq_ok_iff.mpr
      ⟨(rfl : (⟨noiseless, .error⟩ : Surroundings).files.exists? spelled.baseDirectory = true),
        checks, _, prepared, resolved₂, rfl⟩
    rcases validate_separates_files noisy_sameBut_noiseless wellFormed_noisy wellFormed_noiseless
        (unlinked_of_flat (by simp) _ _) (unlinked_of_flat (by simp) _ _)
        (rfl : spelled.mode = .matching) rfl rfl elsewhere .error Vcs.quiet with
      ⟨e, failed, -⟩ | ⟨r₁, r₂, others, own₁, own₂, ran₁, ran₂, divides₁, divides₂⟩
    · cases done₁.symm.trans failed
    · cases done₁.symm.trans ran₁
      cases done₂.symm.trans ran₂
      exact ⟨noisy_sameBut_noiseless, elsewhere, _, _, others, own₁, own₂, done₁, done₂,
        Surroundings.files_report _ _ _, Surroundings.files_report _ _ _, divides₁, divides₂⟩

end DocLint
