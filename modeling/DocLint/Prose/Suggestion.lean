import DocLint.Pattern.Matching
import DocLint.Prose.Phrases

/-!
# Style suggestions

Eight heuristics look at a line of prose and suggest places to improve, each as a byte offset, a
length in bytes and a reason.  A heuristic can be switched off by its key; the suggestions of the
others are merged in the order of their offsets, those at one offset in the order of the
heuristics.
-/
namespace DocLint.Prose

open Pattern

structure Suggestion where
  offset : Nat
  length : Nat
  reason : String
deriving DecidableEq, Repr

def Suggestion.at (part : Capture) (reason : String) : Suggestion :=
  ⟨part.start.offset, part.length, reason⟩

def inQuotes (text : List Char) : String :=
  "\"" ++ String.ofList text ++ "\""

/-- One suggestion for each match of a pattern; the reason quotes the match. -/
def suggestMatches (p : Pattern) (verdict : String) (line : List Char) : List Suggestion :=
  (p.allMatches line).map fun m => .at m.whole (inQuotes m.whole.text ++ verdict)

/-- One suggestion for the first group of the leftmost match of a pattern. -/
def suggestLeading (p : Pattern) (reason : List Char → String) (line : List Char) :
    List Suggestion :=
  match (p.search line).bind (·.group? 1) with
  | Option.some part => [.at part (reason part.text)]
  | none => []

/-- Any of the given words or phrases, in any case, between word boundaries. -/
def anyOf (phrases : List String) : Pattern :=
  sequence [boundary, choice (phrases.map caseless), boundary]

/-- A form of "to be" and a participle. -/
def passivePattern : Pattern :=
  sequence [boundary, choice (auxiliaries.map caseless), Pattern.some Text.isBlank,
    alt (sequence [Pattern.some (CharSet.range 'a' 'z').fold, caseless "ed"])
      (choice (irregularParticiples.map caseless)),
    boundary]

def leadingSo : Pattern :=
  sequence [start, many Text.isBlank, group 1 (caseless "so"), boundary]

def leadingThereIs : Pattern :=
  sequence [start, many Text.isBlank,
    group 1 (sequence [caseless "there", Pattern.some Text.isBlank,
      alt (caseless "is") (caseless "are")]),
    boundary]

def plainWord : Pattern :=
  Pattern.some fun c => Unicode.isAsciiLetter c || c == '\''

def neighbours {α : Type} (items : List α) : List (α × α) :=
  items.zip items.tail

def repeatedWords (line : List Char) : List Suggestion :=
  (neighbours ((plainWord.allMatches line).map (·.whole))).filterMap fun (first, second) =>
    if Unicode.eqIgnoringAsciiCase first.text second.text &&
        Text.isBlankText (first.stop.textTo second.start) then
      let both : Capture := ⟨first.start, second.stop⟩
      Option.some (.at both (inQuotes both.text ++ " is repeated"))
    else none

/-- A heuristic and the key that switches it off. -/
structure Heuristic where
  key : String
  suggest : List Char → List Suggestion

/-- The heuristics, in the order in which their suggestions are listed. -/
def heuristics : List Heuristic :=
  [ ⟨"passive", suggestMatches passivePattern " may be passive voice"⟩,
    ⟨"illusion", repeatedWords⟩,
    ⟨"so", suggestLeading leadingSo fun _ => "\"So\" adds no meaning"⟩,
    ⟨"thereIs", suggestLeading leadingThereIs fun text =>
      inQuotes text ++ " is unnecessary verbiage"⟩,
    ⟨"weasel", suggestMatches (anyOf weaselWords) " is a weasel word"⟩,
    ⟨"adverb", suggestMatches (anyOf weakAdverbs) " can weaken meaning"⟩,
    ⟨"tooWordy", suggestMatches (anyOf wordyPhrases) " is wordy or unneeded"⟩,
    ⟨"cliches", suggestMatches (anyOf wornPhrases) " is a cliche"⟩ ]

/-- Switches of heuristics by key; a heuristic without a switch is on. -/
abbrev Switches := List (String × Bool)

def isOn (switches : Switches) (h : Heuristic) : Bool :=
  match switches.find? fun s => s.1 == h.key with
  | Option.some s => s.2
  | none => true

/-- The suggestions of the heuristics that are on, by offset. -/
def suggest (switches : Switches) (line : List Char) : List Suggestion :=
  ((heuristics.filter (isOn switches)).flatMap (·.suggest line)).mergeSort
    fun a b => a.offset ≤ b.offset

end DocLint.Prose
