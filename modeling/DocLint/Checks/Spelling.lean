import DocLint.Prose.Spelling
import DocLint.Rule

/-!
# The rule Spelling

Reports the words of a document that neither the dictionary file nor the custom words hold.
-/
namespace DocLint.Checks.Spelling

open Prose

def name : String := "Spelling"

def defaultDictionary : String := "/usr/share/dict/words"

/-- Where the known words come from, and how many unknown ones are tolerated. -/
structure Settings where
  dictionary : Option String := none
  customWords : List String := []
  warnLimit : Option Nat := none
  errorLimit : Option Nat := none

structure Draft where
  dictionary : Option (Option String) := none
  customWords : Option (List String) := none
  warnLimit : Option (Option Nat) := none
  errorLimit : Option (Option Nat) := none

def fields : List (FieldDecoder Draft) :=
  [ .ofSlot "dictionary" [] false (·.dictionary) (fun x d => { d with dictionary := some x })
      (Json.decodeOption Json.decodePath),
    .ofSlot "customWords" [] false (·.customWords) (fun x d => { d with customWords := some x })
      (Json.decodeList Json.decodeString),
    .ofSlot "warnLimit" [] false (·.warnLimit) (fun x d => { d with warnLimit := some x })
      (Json.decodeOption Json.decodeCount),
    .ofSlot "errorLimit" [] false (·.errorLimit) (fun x d => { d with errorLimit := some x })
      (Json.decodeOption Json.decodeCount) ]

def decode : Decoder Settings :=
  Json.decodeRecord "struct SpellingSettings" fields {} fun d =>
    .ok ⟨d.dictionary.getD none, d.customWords.getD [], d.warnLimit.getD none,
      d.errorLimit.getD none⟩

def vocabulary (dictionary : String) (customWords : List String) : Vocabulary :=
  .ofEntries (Text.lines dictionary.toList ++ customWords.map String.toList)

/-- How a misspelled word of the line of a given index is reported. -/
def describe (index : Nat) (word : Capture) : String :=
  "Line " ++ toString index ++ ": Position: " ++ toString word.start.offset ++ ":" ++
    toString word.stop.offset ++ " " ++ String.ofList word.text ++ " is misspelled"

/-- The reported misspellings of lines, the first of which has the given index. -/
def corrections (v : Vocabulary) : Nat → List String → List String
  | _, [] => []
  | index, line :: rest =>
    (v.misspelled line.toList).map (describe index) ++ corrections v (index + 1) rest

/-- A positive limit that a count reaches. -/
def reached? (count : Nat) (limit : Option Nat) : Option Nat :=
  match limit with
  | some l => if 0 < l && l ≤ count then some l else none
  | none => none

/-- The verdict on a number of misspellings: the error limit counts before the warning limit. -/
def verdict (settings : Settings) (count : Nat) : Severity × Option Nat :=
  match reached? count settings.errorLimit with
  | some limit => (.error, some limit)
  | none =>
    match reached? count settings.warnLimit with
    | some limit => (.warn, some limit)
    | none => (.success, none)

def check (files : FileTree) (document : Document) (settings : Json) :
    Except RuleError CheckResult := do
  let settings ← parseSettings decode settings
  let path := settings.dictionary.getD defaultDictionary
  let dictionary ← (files.readText path).mapError fun e =>
    RuleError.other ("cannot read dictionary " ++ path ++ ": " ++ e.message)
  let found := corrections (vocabulary dictionary settings.customWords) 0 document.lines
  let (status, limit) := verdict settings found.length
  let count := toString found.length
  return {
    status
    check := name
    file := document.file
    message :=
      match limit with
      | some limit => "Misspelled word count " ++ count ++ " is higher than " ++ toString limit
      | none => "Misspelled words found: " ++ count
    detail := some (.array (found.map Json.string)) }

def rule : Rule :=
  ⟨name, fun files document settings => .ofExcept (check files document settings)⟩

end DocLint.Checks.Spelling
