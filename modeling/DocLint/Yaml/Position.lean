import DocLint.Yaml.Token

/-!
# Positions in a YAML text

A position knows the text that follows, its line and column, and whether only blanks precede it on
its line.  The text holds no NUL, which stands for its end.
-/
namespace DocLint.Yaml

def isBreak (c : Char) : Bool := c == '\n' || c == '\r'

def isSpace (c : Char) : Bool := c == ' ' || c == '\t'

/-- What stands for the end of the text. -/
def endMark : Char := '\x00'

def isBreakOrEnd (c : Char) : Bool := isBreak c || c == endMark

def isGap (c : Char) : Bool := isSpace c || isBreakOrEnd c

def isFlowMark (c : Char) : Bool :=
  c == ',' || c == '[' || c == ']' || c == '\x7b' || c == '\x7d'

def isNameChar (c : Char) : Bool :=
  c.isAlphanum || c == '_' || c == '-'

structure Position where
  rest : List Char
  index : Nat
  line : Nat
  column : Nat
  fresh : Bool

/-- What skipping blanks found. -/
structure Skipped where
  position : Position
  tabs : Bool
  spaces : Bool

namespace Position

/-- The start of a text, which is cut at the first NUL. -/
def start (text : List Char) : Position :=
  ⟨text.takeWhile (· != endMark), 0, 0, 0, true⟩

def peek (p : Position) : Char := p.rest.headD endMark

def peekSecond (p : Position) : Char := (p.rest.drop 1).headD endMark

def advance (p : Position) (n : Nat) : Position :=
  { p with rest := p.rest.drop n, index := p.index + n, column := p.column + n }

/-- Move on by some characters of content. -/
def take (p : Position) (n : Nat) : Position :=
  { p.advance n with fresh := false }

/-- Move to the next line; a carriage return and a line feed are one break. -/
def breakLine (p : Position) : Position :=
  match p.rest with
  | '\r' :: '\n' :: rest => ⟨rest, p.index + 2, p.line + 1, 0, true⟩
  | _ :: rest => ⟨rest, p.index + 1, p.line + 1, 0, true⟩
  | [] => p

def skipComment (p : Position) : Position :=
  p.advance (p.rest.takeWhile fun c => !isBreak c).length

/-- Skip blanks and a comment after them; a comment needs a blank before it. -/
def skipBlanks (p : Position) (tabs : Bool) : Except Fault Skipped :=
  let blanks := p.rest.takeWhile fun c => c == ' ' || (tabs && c == '\t')
  let q := p.advance blanks.length
  if q.peek == '#' then
    if blanks.isEmpty then .error .noBlankBeforeComment
    else .ok ⟨q.skipComment, blanks.contains '\t', blanks.contains ' '⟩
  else .ok ⟨q, blanks.contains '\t', blanks.contains ' '⟩

/-- Whether the text goes on with three times the given mark and a gap. -/
def atMark (mark : Char) (p : Position) : Bool :=
  match p.rest with
  | a :: b :: c :: rest => a == mark && b == mark && c == mark && isGap (rest.headD endMark)
  | _ => false

/-- Whether a line starts here that begins or ends a document. -/
def atDocumentMark (p : Position) : Bool :=
  p.column == 0 && (p.atMark '-' || p.atMark '.')

/-- The characters in front that satisfy a condition, and the position after them. -/
def takeWhile (p : Position) (condition : Char → Bool) : List Char × Position :=
  let taken := p.rest.takeWhile condition
  (taken, if taken.isEmpty then p else p.take taken.length)

end Position

/-- What stands between two words of a scalar: the blanks before the first line break and the
number of line breaks.  A gap is joined when a backslash hides its first line break. -/
structure Gap where
  blanks : List Char := []
  breaks : Nat := 0
  joined : Bool := false

/-- What a gap stands for: blanks are kept, one line break is a blank, and of several line breaks
all but the first are kept. -/
def Gap.text (g : Gap) : List Char :=
  if g.joined then List.replicate g.breaks '\n'
  else if g.breaks == 0 then g.blanks
  else if g.breaks == 1 then [' ']
  else List.replicate (g.breaks - 1) '\n'

end DocLint.Yaml
