import DocLint.Json.Basic
import DocLint.Pattern.Matching
import DocLint.Text.Lines

/-!
# Text statistics

Counts of words, sentences, syllables and letters of a text, and the readability indices computed
from them.  Syllables are counted by groups of vowels, less a silent final e.
-/
namespace DocLint.Prose

open Pattern

def isAlphanumeric (c : Char) : Bool :=
  Unicode.isAsciiLetter c || Unicode.isAsciiDigit c

/-- A run of letters and digits, continued by apostrophes with letters after them. -/
def countedWord : Pattern :=
  seq (Pattern.some isAlphanumeric) (star (seq (char '\'') (Pattern.some Unicode.isAsciiLetter)))

def wordsOf (text : List Char) : List (List Char) :=
  (countedWord.allMatches text).map (·.whole.text)

def isVowel (c : Char) : Bool :=
  c == 'a' || c == 'e' || c == 'i' || c == 'o' || c == 'u' || c == 'y'

/-- The number of maximal runs of vowels; the flag says whether a vowel came before. -/
def vowelGroups : Bool → List Char → Nat
  | _, [] => 0
  | inside, c :: rest =>
    if isVowel c then (if inside then 0 else 1) + vowelGroups true rest
    else vowelGroups false rest

def hasSilentE (word : List Char) : Bool :=
  match word.reverse with
  | 'e' :: 'l' :: _ => false
  | 'e' :: 'e' :: _ => false
  | 'e' :: _ => true
  | _ => false

/-- The number of syllables of a word; a number counts as one. -/
def syllables (word : List Char) : Nat :=
  let lower := word.map Char.toLower
  if lower.all Unicode.isAsciiDigit then 1
  else
    let groups := vowelGroups false lower
    let spoken := if 1 < groups && hasSilentE lower then groups - 1 else groups
    max spoken 1

def endsSentence (c : Char) : Bool :=
  c == '.' || c == '!' || c == '?' || c == '\n'

/-- The number of pieces between sentence ends that hold a word. -/
def sentenceCount (text : List Char) : Nat :=
  ((Text.splitOn endsSentence text).filter fun piece => countedWord.found piece).length

structure Counts where
  words : Nat
  sentences : Nat
  syllables : Nat
  letters : Nat
deriving DecidableEq, Repr

def total (counts : List Nat) : Nat :=
  counts.foldr (fun count sum => count + sum) 0

/-- Count a text; a text with words has at least one sentence. -/
def Counts.of (text : List Char) : Counts :=
  let words := wordsOf text
  if words.isEmpty then ⟨0, 0, 0, 0⟩
  else
    { words := words.length
      sentences := max (sentenceCount text) 1
      syllables := total (words.map Prose.syllables)
      letters := total (words.map fun w => w.countP isAlphanumeric) }

structure Indices where
  readingEase : Float
  kincaidGrade : Float
  colemanLiau : Float
  automated : Float
  consensus : Float

/-- A count as a float; what does not fit 32 bits counts as the greatest number that does. -/
def floatOf (count : Nat) : Float := Float.ofNat (min count 0xFFFFFFFF)

/-- A quotient of two counts; zero if there is nothing to divide by. -/
def ratio (numerator denominator : Nat) : Float :=
  if denominator = 0 then 0.0 else floatOf numerator / floatOf denominator

/-- Round to one decimal place, a half away from zero. -/
def roundTenth (x : Float) : Float :=
  (x * 10.0).round / 10.0

/-- The indices that follow from counts, for a way to take ratios of them. -/
def Counts.indicesBy (ratio : Nat → Nat → Float) (c : Counts) : Indices :=
  let wordsPerSentence := ratio c.words c.sentences
  let syllablesPerWord := ratio c.syllables c.words
  let lettersPerWord := ratio c.letters c.words
  let ease := 206.835 - 1.015 * wordsPerSentence - 84.6 * syllablesPerWord
  let kincaid := 0.39 * wordsPerSentence + 11.8 * syllablesPerWord - 15.59
  let coleman := 0.0588 * (lettersPerWord * 100.0) - 0.296 * (ratio c.sentences c.words * 100.0)
    - 15.8
  let automated := 4.71 * lettersPerWord + 0.5 * wordsPerSentence - 21.43
  { readingEase := roundTenth ease
    kincaidGrade := roundTenth kincaid
    colemanLiau := roundTenth coleman
    automated := roundTenth automated
    consensus := ((kincaid + coleman + automated) / 3.0).round }

/-- The indices that follow from counts with at least one word. -/
def Counts.indices (c : Counts) : Indices :=
  c.indicesBy ratio

/-- The counts of a text and its indices; all indices of a text without words are zero. -/
structure Statistics where
  counts : Counts
  indices : Indices

def Statistics.of (text : List Char) : Statistics :=
  let counts := Counts.of text
  if counts.words = 0 then ⟨counts, ⟨0.0, 0.0, 0.0, 0.0, 0.0⟩⟩ else ⟨counts, counts.indices⟩

def Statistics.encode (s : Statistics) : Json :=
  .ofFields [("wordCount", .nat s.counts.words), ("sentenceCount", .nat s.counts.sentences),
    ("syllableCount", .nat s.counts.syllables), ("letterCount", .nat s.counts.letters),
    ("fleschReadingEase", .float s.indices.readingEase),
    ("fleschKincaidGrade", .float s.indices.kincaidGrade),
    ("colemanLiauIndex", .float s.indices.colemanLiau),
    ("automatedReadabilityIndex", .float s.indices.automated),
    ("textStandard", .float s.indices.consensus)]

end DocLint.Prose
