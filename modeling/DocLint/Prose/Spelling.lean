import DocLint.Pattern.Matching
import DocLint.Text.Lines

/-!
# Spelling

A vocabulary is a set of lower-case words.  A word of a line is accepted when the vocabulary holds
it, or holds its part before the first apostrophe.  The words of a line are ASCII, so lowering
matters only for letters whose lower case is ASCII.
-/
namespace DocLint.Prose

open Pattern

/-- A run of ASCII letters, continued by single apostrophes with letters after them. -/
def spelledWord : Pattern :=
  seq (Pattern.some Unicode.isAsciiLetter)
    (star (seq (char '\'') (Pattern.some Unicode.isAsciiLetter)))

/-- Lower case for the letters whose lower case is ASCII: the ASCII letters and the Kelvin
sign. -/
def lowerChar (c : Char) : Char :=
  if c == '\u212a' then 'k' else c.toLower

abbrev Vocabulary := List (List Char)

/-- The words of a list of entries: trimmed, in lower case, without blank ones. -/
def Vocabulary.ofEntries (entries : List (List Char)) : Vocabulary :=
  ((entries.map Text.trim).filter fun entry => !entry.isEmpty).map fun entry =>
    entry.map lowerChar

/-- Whether a word, or its part before the first apostrophe, is known. -/
def Vocabulary.knows (v : Vocabulary) (word : List Char) : Bool :=
  let lower := word.map lowerChar
  v.contains lower ||
    (lower.contains '\'' && v.contains (lower.takeWhile (· != '\'')))

def Vocabulary.misspelled (v : Vocabulary) (line : List Char) : List Capture :=
  ((spelledWord.allMatches line).map (·.whole)).filter fun word => !v.knows word.text

end DocLint.Prose
