import DocLint.Checks.Spelling
import DocLint.Proofs.Prose.Scanning
import DocLint.Proofs.Text.Ascii
import Mathlib.Data.List.Forall2

/-!
# Misspelled words

The words of a document are reported unless the entries of the dictionary or the custom words list
them. A limit that their number reaches decides on the status, the one for errors before the one for
warnings.
-/
namespace DocLint.Checks.Spelling

open Prose

/-! ### Listed words -/

/-- What is left of an entry that is trimmed and put in lower case is the text, and not empty. -/
def Listed (entries : List (List Char)) (lower : List Char) : Prop :=
  ∃ entry ∈ entries, Text.trim entry ≠ [] ∧ (Text.trim entry).map lowerChar = lower

/-- Neither the word in lower case nor, if it has an apostrophe, its part before the first one is
listed. -/
def IsUnknown (entries : List (List Char)) (word : List Char) : Prop :=
  ¬Listed entries (word.map lowerChar) ∧
    ('\'' ∈ word → ¬Listed entries ((word.takeWhile (· != '\'')).map lowerChar))

instance (entries : List (List Char)) (lower : List Char) : Decidable (Listed entries lower) :=
  inferInstanceAs (Decidable (∃ entry ∈ entries, _ ∧ _))

instance (entries : List (List Char)) (word : List Char) : Decidable (IsUnknown entries word) :=
  inferInstanceAs (Decidable (_ ∧ _))

def entriesOf (dictionary : String) (customWords : List String) : List (List Char) :=
  Text.lines dictionary.toList ++ customWords.map String.toList

variable {entries : List (List Char)} {word lower : List Char} {count limit : Nat}

theorem contains_ofEntries : (Vocabulary.ofEntries entries).contains lower = true ↔
    Listed entries lower := by
  simp [Vocabulary.ofEntries, Listed, and_assoc]

theorem lowerChar_eq_apostrophe_iff {c : Char} : lowerChar c = '\'' ↔ c = '\'' := by
  rw [lowerChar]
  split
  case isTrue kelvin =>
    rw [beq_iff_eq.mp kelvin]
    decide
  case isFalse => exact toLower_eq_iff (by decide)

/-- The part of a word before its first apostrophe can be put in lower case first. -/
theorem takeWhile_map_lowerChar (word : List Char) :
    (word.map lowerChar).takeWhile (· != '\'') =
      (word.takeWhile (· != '\'')).map lowerChar := by
  have same : (· != '\'') ∘ lowerChar = (· != '\'') := by
    funext c
    simp [bne, lowerChar_eq_apostrophe_iff]
  rw [List.takeWhile_map, same]

theorem knows_eq_false_iff :
    (Vocabulary.ofEntries entries).knows word = false ↔ IsUnknown entries word := by
  have joined : (word.map lowerChar).contains '\'' = true ↔ '\'' ∈ word := by
    simp [lowerChar_eq_apostrophe_iff]
  rw [Vocabulary.knows, Bool.or_eq_false_iff, Bool.and_eq_false_iff, ← Bool.not_eq_true,
    ← Bool.not_eq_true, ← Bool.not_eq_true, joined, takeWhile_map_lowerChar, contains_ofEntries,
    contains_ofEntries, IsUnknown, imp_iff_not_or]

/-! ### Reports -/

def report (index : Nat) (p : PlacedWord) : String :=
  "Line " ++ toString index ++ ": Position: " ++ toString p.start ++ ":" ++ toString p.stop ++
    " " ++ String.ofList p.word ++ " is misspelled"

theorem toList_report (index : Nat) (p : PlacedWord) : (report index p).toList =
    "Line ".toList ++ (Nat.toDigits 10 index ++ ':' :: (" Position: ".toList ++
      (Nat.toDigits 10 p.start ++ ':' :: (Nat.toDigits 10 p.stop ++ ' ' ::
        (p.word ++ " is misspelled".toList))))) := by
  simp [report, String.toList_append]

/-- A report tells the line, the place and the word. -/
theorem report_injective {i j : Nat} {p q : PlacedWord} (same : report i p = report j q) :
    i = j ∧ p = q := by
  have spelled := congrArg String.toList same
  rw [toList_report, toList_report] at spelled
  obtain ⟨line, spelled⟩ := toDigits_append_cons_inj rfl (List.append_cancel_left spelled)
  obtain ⟨start, spelled⟩ := toDigits_append_cons_inj rfl (List.append_cancel_left spelled)
  obtain ⟨stop, spelled⟩ := toDigits_append_cons_inj rfl spelled
  exact ⟨line, PlacedWord.ext start stop (List.append_cancel_right spelled)⟩

/-- The reports of the unknown words among the words of lines, the first of which has the given
index. -/
def reportsFrom (entries : List (List Char)) (index : Nat) (words : List (List PlacedWord)) :
    List String :=
  (words.zipIdx index).flatMap fun (line, i) =>
    (line.filter fun p => IsUnknown entries p.word).map (report i)

def AreWordsOf (lines : List String) (words : List (List PlacedWord)) : Prop :=
  List.Forall₂ (fun line ps => AreWords 0 line.toList ps) lines words

theorem exists_areWordsOf (lines : List String) : ∃ words, AreWordsOf lines words :=
  ⟨lines.map fun line => (spelledWord.allMatches line.toList).map placed,
    List.forall₂_map_right_iff.mpr
      (List.forall₂_same.mpr fun line _ => areWords_allMatches line.toList)⟩

theorem AreWordsOf.of_getElem? {lines : List String} {words : List (List PlacedWord)}
    (areWords : AreWordsOf lines words) {index : Nat} {line : String}
    (lineAt : lines[index]? = some line) :
    ∃ ps, words[index]? = some ps ∧ AreWords 0 line.toList ps := by
  induction areWords generalizing index with
  | nil => simp at lineAt
  | cons first _ ih =>
    cases index with
    | zero =>
      obtain rfl := Option.some.inj lineAt
      exact ⟨_, rfl, first⟩
    | succ index => exact ih lineAt

theorem describe_misspelled {line : List Char} {ps : List PlacedWord} (areWords : AreWords 0 line ps)
    (entries : List (List Char)) (index : Nat) :
    ((Vocabulary.ofEntries entries).misspelled line).map (describe index) =
      (ps.filter fun p => IsUnknown entries p.word).map (report index) := by
  have same : ((fun word : Capture => !(Vocabulary.ofEntries entries).knows word.text) ∘
      Pattern.Match.whole) = (fun p => decide (IsUnknown entries p.word)) ∘ placed := by
    funext m
    rw [Bool.eq_iff_iff, Function.comp_apply, Function.comp_apply, Bool.not_eq_true',
      knows_eq_false_iff, decide_eq_true_iff]
    rfl
  rw [areWords.unique (areWords_allMatches line), Vocabulary.misspelled, List.filter_map,
    List.filter_map, List.map_map, List.map_map, same]
  rfl

theorem corrections_eq_reports {lines : List String} {words : List (List PlacedWord)}
    (areWords : AreWordsOf lines words) (entries : List (List Char)) (index : Nat) :
    corrections (.ofEntries entries) index lines = reportsFrom entries index words := by
  induction areWords generalizing index with
  | nil => rfl
  | cons first _ ih =>
    rw [corrections, describe_misspelled first, ih, reportsFrom, reportsFrom, List.zipIdx_cons,
      List.flatMap_cons]

theorem report_mem_iff {words : List (List PlacedWord)} {index : Nat} {p : PlacedWord} :
    report index p ∈ reportsFrom entries 0 words ↔
      ∃ ps, words[index]? = some ps ∧ p ∈ ps ∧ IsUnknown entries p.word := by
  simp only [reportsFrom, List.mem_flatMap, List.mem_map, List.mem_filter, decide_eq_true_eq]
  constructor
  · rintro ⟨⟨ps, i⟩, line, q, ⟨member, unknown⟩, same⟩
    obtain ⟨rfl, rfl⟩ := report_injective same
    exact ⟨ps, List.mem_zipIdx_iff_getElem?.mp line, member, unknown⟩
  · rintro ⟨ps, line, member, unknown⟩
    exact ⟨(ps, index), List.mem_zipIdx_iff_getElem?.mpr line, p, ⟨member, unknown⟩, rfl⟩

/-! ### Verdicts -/

/-- The limit is set and positive, and the count reaches it. -/
def Reaches (count : Nat) (set : Option Nat) (limit : Nat) : Prop :=
  set = some limit ∧ 0 < limit ∧ limit ≤ count

theorem reached?_eq_some_iff {set : Option Nat} :
    reached? count set = some limit ↔ Reaches count set limit := by
  cases set with
  | none => simp [reached?, Reaches]
  | some l =>
    simp only [reached?, Reaches, Option.ite_none_right_eq_some, Bool.and_eq_true,
      decide_eq_true_eq, Option.some.injEq]
    constructor
    · rintro ⟨⟨positive, le⟩, rfl⟩; exact ⟨rfl, positive, le⟩
    · rintro ⟨rfl, positive, le⟩; exact ⟨⟨positive, le⟩, rfl⟩

theorem reached?_eq_none_iff {set : Option Nat} :
    reached? count set = none ↔ ¬∃ limit, Reaches count set limit := by
  rw [Option.eq_none_iff_forall_ne_some, not_exists]
  exact forall_congr' fun limit => not_congr reached?_eq_some_iff

/-- What a number of unknown words says under given limits. -/
structure IsVerdict (settings : Settings) (count : Nat) (result : CheckResult) : Prop where
  error_iff : result.status = .error ↔ ∃ limit, Reaches count settings.errorLimit limit
  warn_iff : result.status = .warn ↔
    (¬∃ limit, Reaches count settings.errorLimit limit) ∧
      ∃ limit, Reaches count settings.warnLimit limit
  success_iff : result.status = .success ↔
    (¬∃ limit, Reaches count settings.errorLimit limit) ∧
      ¬∃ limit, Reaches count settings.warnLimit limit
  error_message : result.status = .error → ∃ limit, settings.errorLimit = some limit ∧
    result.message =
      "Misspelled word count " ++ toString count ++ " is higher than " ++ toString limit
  warn_message : result.status = .warn → ∃ limit, settings.warnLimit = some limit ∧
    result.message =
      "Misspelled word count " ++ toString count ++ " is higher than " ++ toString limit
  success_message : result.status = .success →
    result.message = "Misspelled words found: " ++ toString count

def resultOf (document : Document) (settings : Settings) (found : List String) : CheckResult where
  status := (verdict settings found.length).1
  check := name
  file := document.file
  message :=
    match (verdict settings found.length).2 with
    | some limit =>
      "Misspelled word count " ++ toString found.length ++ " is higher than " ++ toString limit
    | none => "Misspelled words found: " ++ toString found.length
  detail := some (.array (found.map Json.string))

theorem isVerdict_resultOf (document : Document) (settings : Settings) (found : List String) :
    IsVerdict settings found.length (resultOf document settings found) := by
  cases error : reached? found.length settings.errorLimit with
  | some limit =>
    have reached := reached?_eq_some_iff.mp error
    have decided : verdict settings found.length = (.error, some limit) := by rw [verdict, error]
    have status : (resultOf document settings found).status = .error := by rw [resultOf, decided]
    exact {
      error_iff := iff_of_true status ⟨limit, reached⟩
      warn_iff := iff_of_false (by simp [status]) fun both => both.1 ⟨limit, reached⟩
      success_iff := iff_of_false (by simp [status]) fun both => both.1 ⟨limit, reached⟩
      error_message := fun _ => ⟨limit, reached.1, by simp only [resultOf, decided]⟩
      warn_message := fun other => by simp [status] at other
      success_message := fun other => by simp [status] at other }
  | none =>
    have under := reached?_eq_none_iff.mp error
    cases warn : reached? found.length settings.warnLimit with
    | some limit =>
      have reached := reached?_eq_some_iff.mp warn
      have decided : verdict settings found.length = (.warn, some limit) := by
        rw [verdict, error, warn]
      have status : (resultOf document settings found).status = .warn := by rw [resultOf, decided]
      exact {
        error_iff := iff_of_false (by simp [status]) under
        warn_iff := iff_of_true status ⟨under, limit, reached⟩
        success_iff := iff_of_false (by simp [status]) fun both => both.2 ⟨limit, reached⟩
        error_message := fun other => by simp [status] at other
        warn_message := fun _ => ⟨limit, reached.1, by simp only [resultOf, decided]⟩
        success_message := fun other => by simp [status] at other }
    | none =>
      have below := reached?_eq_none_iff.mp warn
      have decided : verdict settings found.length = (.success, none) := by
        rw [verdict, error, warn]
      have status : (resultOf document settings found).status = .success := by
        rw [resultOf, decided]
      exact {
        error_iff := iff_of_false (by simp [status]) under
        warn_iff := iff_of_false (by simp [status]) fun both => below both.2
        success_iff := iff_of_true status ⟨under, below⟩
        error_message := fun other => by simp [status] at other
        warn_message := fun other => by simp [status] at other
        success_message := fun _ => by simp only [resultOf, decided] }

/-! ### The check -/

variable {files : FileTree} {document : Document} {json : Json} {result : CheckResult}
  {settings : Settings} {dictionary : String} {words : List (List PlacedWord)}

theorem check_eq_ok (parsed : parseSettings decode json = .ok settings)
    (read : files.readText (settings.dictionary.getD defaultDictionary) = .ok dictionary)
    (areWords : AreWordsOf document.lines words) :
    check files document json = .ok (resultOf document settings
      (reportsFrom (entriesOf dictionary settings.customWords) 0 words)) := by
  rw [check, parsed, ← corrections_eq_reports areWords]
  simp only [bind, Except.bind, read]
  rfl

/-- A check that completes has read its settings and its dictionary. -/
theorem exists_of_check_eq_ok (completes : check files document json = .ok result) :
    ∃ settings dictionary, parseSettings decode json = .ok settings ∧
      files.readText (settings.dictionary.getD defaultDictionary) = .ok dictionary := by
  rw [check] at completes
  cases parsed : parseSettings decode json with
  | error e =>
    rw [parsed] at completes
    cases completes
  | ok settings =>
    cases read : files.readText (settings.dictionary.getD defaultDictionary) with
    | error e =>
      rw [parsed] at completes
      simp only [bind, Except.bind, read] at completes
      cases completes
    | ok dictionary => exact ⟨settings, dictionary, rfl, read⟩

/-- Of a line exactly the unknown words are reported. -/
theorem reported_iff (completes : check files document json = .ok result)
    (parsed : parseSettings decode json = .ok settings)
    (read : files.readText (settings.dictionary.getD defaultDictionary) = .ok dictionary)
    {index : Nat} {line : String} (lineAt : document.lines[index]? = some line) (p : PlacedWord) :
    (∃ reports, result.detail = some (.array reports) ∧ .string (report index p) ∈ reports) ↔
      p.StandsIn 0 line.toList ∧ IsUnknown (entriesOf dictionary settings.customWords) p.word := by
  obtain ⟨words, areWords⟩ := exists_areWordsOf document.lines
  obtain ⟨ps, psAt, line⟩ := areWords.of_getElem? lineAt
  rw [check_eq_ok parsed read areWords] at completes
  obtain rfl := Except.ok.inj completes
  simp [resultOf, report_mem_iff, psAt, line.mem_iff]

/-- The reports of a document are exactly those of its unknown words, line by line and from left to
right, and their number decides on the status. -/
theorem check_reports_unknown_words (completes : check files document json = .ok result) :
    ∃ settings dictionary, parseSettings decode json = .ok settings ∧
      files.readText (settings.dictionary.getD defaultDictionary) = .ok dictionary ∧
      (∃ words, AreWordsOf document.lines words) ∧
      ∀ words, AreWordsOf document.lines words →
        let reports := reportsFrom (entriesOf dictionary settings.customWords) 0 words
        result.detail = some (.array (reports.map Json.string)) ∧
          IsVerdict settings reports.length result := by
  obtain ⟨settings, dictionary, parsed, read⟩ := exists_of_check_eq_ok completes
  refine ⟨settings, dictionary, parsed, read, exists_areWordsOf document.lines, ?_⟩
  intro words areWords reports
  rw [check_eq_ok parsed read areWords] at completes
  obtain rfl := Except.ok.inj completes
  exact ⟨rfl, isVerdict_resultOf document settings reports⟩

/-- A working directory with nothing in it but a file `d`. -/
def directoryOf (bytes : List UInt8) : FileTree := ⟨.directory [("d", .file bytes)], []⟩

theorem readText_directoryOf {bytes : List UInt8}
    (decoded : Text.decodeUtf8 bytes = .ok dictionary) :
    (directoryOf bytes).readText "d" = .ok dictionary := by
  have read : (directoryOf bytes).readBytes "d" = .ok bytes := by rfl
  simp [FileTree.readText, read, decoded, bind, Except.bind]

private def wordList : String := "hello\nWorld\nthe\nwriter\n"

private def letter : Document :=
  ⟨"letter.md", [], "", "", ["hello world", "the writer's wrold"]⟩

private def letterWords : List (List PlacedWord) :=
  [[⟨0, 5, "hello".toList⟩, ⟨6, 11, "world".toList⟩],
    [⟨0, 3, "the".toList⟩, ⟨4, 12, "writer's".toList⟩, ⟨13, 18, "wrold".toList⟩]]

private def strict : Json :=
  .object [("dictionary", .string "d"), ("warnLimit", .number (.integer 1))]

/-- The stem of a possessive is listed, the word after it is not. -/
theorem check_reports_word_after_possessive :
    ∃ files result, files.readText "d" = .ok wordList ∧
      check files letter strict = .ok result ∧
      result.detail = some (.array [.string "Line 1: Position: 13:18 wrold is misspelled"]) ∧
      result.status = .warn ∧ result.message = "Misspelled word count 1 is higher than 1" := by
  have parsed : parseSettings decode strict = .ok ⟨some "d", [], some 1, none⟩ := rfl
  have read : (directoryOf (wordList.toList.map fun c => c.toNat.toUInt8)).readText "d" =
      .ok wordList := readText_directoryOf rfl
  have words : AreWordsOf letter.lines letterWords :=
    .cons (areWords_allMatches _) (.cons (areWords_allMatches _) .nil)
  have completes := check_eq_ok parsed read words
  have reports : reportsFrom (entriesOf wordList []) 0 letterWords =
      ["Line 1: Position: 13:18 wrold is misspelled"] := by decide
  obtain ⟨settings, dictionary, parsed', read', -, exactly⟩ := check_reports_unknown_words completes
  obtain rfl := Except.ok.inj (parsed.symm.trans parsed')
  obtain rfl := Except.ok.inj (read.symm.trans read')
  have found := exactly letterWords words
  rw [reports] at found
  obtain ⟨detail, verdict⟩ := found
  have unset : ¬∃ limit, Reaches 1 none limit := by rintro ⟨limit, set, -⟩; cases set
  have warned := verdict.warn_iff.mpr ⟨unset, 1, rfl, by decide⟩
  obtain ⟨limit, set, message⟩ := verdict.warn_message warned
  cases set
  exact ⟨_, _, read, completes, detail, warned, message.trans (by decide)⟩

end DocLint.Checks.Spelling
