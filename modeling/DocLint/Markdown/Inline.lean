import DocLint.Pattern.Matching

/-!
# Inline markup

The inline marks of markdown, each a pattern with one to three groups that hold the text to keep.
A line is reduced to its text by replacing every occurrence of each mark in turn; the order
matters, since images look like links and code spans may hold other marks.
-/
namespace DocLint.Markdown

open Pattern CharSet

/-- An inline mark and the groups whose text stands for it. -/
structure InlineMark where
  pattern : Pattern
  keep : List Nat

/-- Replace all occurrences of a mark by the text they hold. -/
def InlineMark.reduce (mark : InlineMark) (line : List Char) : List Char :=
  mark.pattern.replaceAll mark.keep line

/-- `(target)`: everything up to the next closing parenthesis. -/
def target : Pattern :=
  sequence [char '(', many (except [')']), char ')']

def image : InlineMark where
  pattern := sequence [char '!', char '[', group 1 (many (except [']'])), char ']', target]
  keep := [1]

def inlineLink : InlineMark where
  pattern := sequence [char '[', group 1 (many (except [']'])), char ']', target]
  keep := [1]

def referenceLink : InlineMark where
  pattern := sequence [char '[', group 1 (some (except [']'])), char ']', char '[',
    many (except [']']), char ']']
  keep := [1]

def autolink : InlineMark where
  pattern := sequence [char '<',
    group 1 (sequence [
      alt (sequence [literal "http", optional (one 's')]) (literal "mailto"),
      char ':', some (fun c => c != '>' && !Text.isBlank c)]),
    char '>']
  keep := [1]

def htmlTag : InlineMark where
  pattern := sequence [char '<', optional (one '/'), oneOf Unicode.isAsciiLetter,
    many (except ['>']), char '>']
  keep := []

def codeSpan : InlineMark where
  pattern := sequence [some (one '`'), group 1 (many (except ['`'])), some (one '`')]
  keep := [1]

def strongMarker : Pattern :=
  alt (literal "**") (literal "__")

/-- `**text**` and `__text__`; the two markers need not agree. -/
def strong : InlineMark where
  pattern := sequence [strongMarker, group 1 (some (except ['*', '_'])), strongMarker]
  keep := [1]

/-- `*text*`, where the text does not start with a blank. -/
def starEmphasis : InlineMark where
  pattern := sequence [char '*',
    group 1 (sequence [oneOf (fun c => c != '*' && !Text.isBlank c), many (except ['*'])]),
    char '*']
  keep := [1]

/-- `_text_` between characters that belong to no word. -/
def underscoreEmphasis : InlineMark where
  pattern := sequence [
    group 1 (alt start (oneOf (others Unicode.isWordChar))),
    char '_',
    group 2 (sequence [oneOf (fun c => c != '_' && !Text.isBlank c), many (except ['_'])]),
    char '_',
    group 3 (alt (oneOf (others Unicode.isWordChar)) stop)]
  keep := [1, 2, 3]

def strikethrough : InlineMark where
  pattern := sequence [literal "~~", group 1 (some (except ['~'])), literal "~~"]
  keep := [1]

/-- The inline marks, in the order in which they are reduced. -/
def inlineMarks : List InlineMark :=
  [image, inlineLink, referenceLink, autolink, htmlTag, codeSpan, strong, starEmphasis,
    underscoreEmphasis, strikethrough]

def reduceInline (line : List Char) : List Char :=
  inlineMarks.foldl (fun line mark => mark.reduce line) line

end DocLint.Markdown
