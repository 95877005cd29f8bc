import DocLint.Text.Blank
import DocLint.Unicode.CaseFold

/-!
# Text patterns

The abstract syntax of text patterns: sets of characters, anchors, sequences, alternatives,
repetitions and numbered groups.  There is no look-around and there are no references to groups.
What a pattern matches is said in `DocLint.Pattern.Matching`, whether it occurs in a text at all in
`DocLint.Pattern.Occurrence`.
-/
namespace DocLint

abbrev CharSet := Char → Bool

namespace CharSet

def one (c : Char) : CharSet := (· == c)

def ofList (cs : List Char) : CharSet := fun c => cs.contains c

/-- The characters from one to another, both included. -/
def range (low high : Char) : CharSet := fun c => low ≤ c && c ≤ high

def union (s t : CharSet) : CharSet := fun c => s c || t c

def inter (s t : CharSet) : CharSet := fun c => s c && t c

def diff (s t : CharSet) : CharSet := fun c => s c && !t c

def symmDiff (s t : CharSet) : CharSet := fun c => s c != t c

def others (s : CharSet) : CharSet := fun c => !s c

def none : CharSet := fun _ => false

def all : CharSet := fun _ => true

def except (cs : List Char) : CharSet := (ofList cs).others

/-- The closure of a set under simple case folding. -/
def fold (s : CharSet) : CharSet := fun c => (Unicode.caseVariants c).any s

end CharSet

/-- Conditions on a position that consume nothing. -/
inductive Anchor where
  | textStart
  | textEnd
  | lineStart
  | lineEnd
  | crlfLineStart
  | crlfLineEnd
  | wordBoundary (word : CharSet)
  | notWordBoundary (word : CharSet)
  | wordStart (word : CharSet)
  | wordEnd (word : CharSet)
  | wordStartHalf (word : CharSet)
  | wordEndHalf (word : CharSet)

/-- Whether an anchor holds between two neighbouring characters; `none` is an end of the text. -/
def Anchor.holds (before after : Option Char) : Anchor → Bool
  | textStart => before.isNone
  | textEnd => after.isNone
  | lineStart => before.isNone || before == some '\n'
  | lineEnd => after.isNone || after == some '\n'
  | crlfLineStart =>
    before.isNone || before == some '\n' || (before == some '\r' && after != some '\n')
  | crlfLineEnd =>
    after.isNone || after == some '\r' || (after == some '\n' && before != some '\r')
  | wordBoundary word => before.any word != after.any word
  | notWordBoundary word => before.any word == after.any word
  | wordStart word => !before.any word && after.any word
  | wordEnd word => before.any word && !after.any word
  | wordStartHalf word => !before.any word
  | wordEndHalf word => !after.any word

inductive Pattern where
  /-- Matches the empty text. -/
  | empty
  /-- One character of a set. -/
  | oneOf (set : CharSet)
  /-- A condition on the position. -/
  | anchor (condition : Anchor)
  /-- A run of characters of a set, of bounded or unbounded length. -/
  | run (set : CharSet) (least : Nat) (most : Option Nat) (greedy : Bool)
  /-- One pattern after another. -/
  | seq (first second : Pattern)
  /-- The first alternative is preferred. -/
  | alt (preferred other : Pattern)
  /-- A repetition that prefers more rounds if it is greedy, fewer if it is not. -/
  | times (body : Pattern) (least : Nat) (most : Option Nat) (greedy : Bool)
  /-- A numbered group, which remembers what it matched. -/
  | group (index : Nat) (body : Pattern)

namespace Pattern

def sequence : List Pattern → Pattern
  | [] => empty
  | [p] => p
  | p :: ps => seq p (sequence ps)

/-- Alternatives, in order of preference. -/
def choice : List Pattern → Pattern
  | [] => oneOf CharSet.none
  | [p] => p
  | p :: ps => alt p (choice ps)

def char (c : Char) : Pattern := oneOf (CharSet.one c)

def literal (s : String) : Pattern :=
  sequence (s.toList.map char)

def caseless (s : String) : Pattern :=
  sequence (s.toList.map fun c => oneOf (CharSet.one c).fold)

def many (set : CharSet) : Pattern := run set 0 none true

/-- One or more characters of a set, as many as possible. -/
def some (set : CharSet) : Pattern := run set 1 none true

/-- An optional character of a set. -/
def optional (set : CharSet) : Pattern := run set 0 (.some 1) true

/-- Any number of rounds of a pattern, as many as possible. -/
def star (body : Pattern) : Pattern := times body 0 none true

def plus (body : Pattern) : Pattern := times body 1 none true

def start : Pattern := anchor .textStart

def stop : Pattern := anchor .textEnd

/-- A position at which a word begins or ends. -/
def boundary : Pattern := anchor (.wordBoundary Unicode.isWordChar)

end Pattern
end DocLint
