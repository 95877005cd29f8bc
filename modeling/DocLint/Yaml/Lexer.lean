import DocLint.Yaml.Scalar
import DocLint.Yaml.BlockText

/-!
# From text to tokens

Tokens are read one after the other.  Whether a node is a key shows only at the colon after it, so
the lexer remembers where the last candidate for a key began, one for each level of brackets, and
inserts the announcement of the key there.  Outside brackets, indentation opens and closes blocks.
-/
namespace DocLint.Yaml

/-- A place at which a key may have begun: the number of its token, where it stands, and whether
the block around it cannot go on without a key there. -/
structure KeyCandidate where
  possible : Bool := false
  required : Bool := false
  number : Nat := 0
  index : Nat := 0
  line : Nat := 0
  column : Nat := 0

/-- The indentation around a block.  A loose indentation is what the value of a key needs at
least; it opens no block. -/
structure Enclosing where
  indent : Int
  loose : Bool

/-- The state between two tokens. -/
structure Lexer where
  position : Position
  /-- The tokens so far, the latest first, and their number. -/
  tokens : List Token := []
  count : Nat := 0
  indent : Int := -1
  enclosing : List Enclosing := []
  /-- The open brackets, the innermost first; `true` for those of a sequence. -/
  brackets : List Bool := []
  /-- A candidate for each open bracket and one for the text around them. -/
  candidate : KeyCandidate := {}
  outerCandidates : List KeyCandidate := []
  keyAllowed : Bool := true
  /-- The offset at which a value may follow its key without a blank. -/
  adjacentAt : Option Nat := none

namespace Lexer

def inFlow (l : Lexer) : Bool := !l.brackets.isEmpty

def maxBrackets : Nat := 255

def maxKeyLength : Nat := 1024

def emit (l : Lexer) (t : Token) : Lexer :=
  { l with tokens := t :: l.tokens, count := l.count + 1 }

def insertAt (l : Lexer) (number : Nat) (t : Token) : Lexer :=
  let later := l.count - number
  { l with
    tokens := l.tokens.take later ++ t :: l.tokens.drop later
    count := l.count + 1 }

/-! ## Indentation -/

/-- Close the blocks that are indented deeper than a column. -/
def unrollFrom (l : Lexer) (column : Int) : List Enclosing → Lexer
  | [] => { l with enclosing := [] }
  | e :: rest =>
    if column < l.indent then
      let l := { l with indent := e.indent }
      unrollFrom (if e.loose then l else l.emit .blockEnd) column rest
    else { l with enclosing := e :: rest }

def unroll (l : Lexer) (column : Int) : Lexer :=
  if l.inFlow then l else l.unrollFrom column l.enclosing

/-- Drop a loose indentation. -/
def tighten (l : Lexer) : Lexer :=
  match l.enclosing with
  | e :: rest => if e.loose then { l with indent := e.indent, enclosing := rest } else l
  | [] => l

/-- Require what follows to be indented by one column more than the block. -/
def loosen (l : Lexer) : Lexer :=
  match l.enclosing with
  | e :: _ =>
    if l.inFlow || e.loose then l
    else { l with indent := l.indent + 1, enclosing := ⟨l.indent, true⟩ :: l.enclosing }
  | [] => l

/-- Open a block at a column unless one is open there; its start is put before the token of the
given number, or at the end. -/
def roll (l : Lexer) (column : Nat) (number : Option Nat) (start : Token) : Lexer :=
  if l.inFlow then l
  else
    let l := if l.indent ≤ column then l.tighten else l
    if l.indent < column then
      let l := { l with indent := column, enclosing := ⟨l.indent, false⟩ :: l.enclosing }
      match number with
      | some n => l.insertAt n start
      | none => l.emit start
    else l

/-! ## Candidates for keys -/

def markCandidate (l : Lexer) : Lexer :=
  if l.keyAllowed then
    let p := l.position
    let required := !l.inFlow && l.indent == p.column &&
      (match l.enclosing with
      | e :: _ => !e.loose
      | [] => false)
    { l with candidate := ⟨true, required, l.count, p.index, p.line, p.column⟩ }
  else l

def dropCandidate (l : Lexer) : Except Fault Lexer :=
  if l.candidate.possible && l.candidate.required then .error .noValueForKey
  else .ok { l with candidate := { l.candidate with possible := false } }

/-- Outside brackets, a key is short and stands on one line. -/
def expireCandidate (l : Lexer) : Except Fault Lexer :=
  let c := l.candidate
  if c.possible && !l.inFlow &&
      (c.line < l.position.line || c.index + maxKeyLength < l.position.index) then
    l.dropCandidate
  else .ok l

/-! ## Blanks and comments -/

/-- Skip blanks, line breaks and comments.  A tab may not indent content of a block. -/
def skipToToken : Nat → Lexer → Except Fault Lexer
  | 0, l => .ok l
  | budget + 1, l =>
    let p := l.position
    let c := p.peek
    if c == '\t' && !l.enclosing.isEmpty && p.fresh && p.column < l.indent then
      match p.skipBlanks true with
      | .error e => .error e
      | .ok s =>
        if isBreakOrEnd s.position.peek then skipToToken budget { l with position := s.position }
        else .error .tabIndentation
    else if isSpace c then skipToToken budget { l with position := p.advance 1 }
    else if isBreak c then
      skipToToken budget
        { l with position := p.breakLine, keyAllowed := l.keyAllowed || !l.inFlow }
    else if c == '#' then skipToToken budget { l with position := p.skipComment }
    else .ok l

/-- Skip blanks and a comment up to the end of the line. -/
def skipLine (l : Lexer) : Except Fault Lexer :=
  (l.position.skipBlanks true).map fun s => { l with position := s.position }

def take (l : Lexer) (n : Nat) : Lexer :=
  { l with position := l.position.take n }

/-! ## Collections -/

def openBracket (l : Lexer) (sequence : Bool) : Except Fault Lexer := do
  let l := l.markCandidate.loosen
  if maxBrackets ≤ l.brackets.length then .error .tooDeep
  let l := { l with
    brackets := sequence :: l.brackets
    outerCandidates := l.candidate :: l.outerCandidates
    candidate := {}
    keyAllowed := true }
  let l ← (l.take 1).skipLine
  return l.emit (if sequence then .flowSequenceStart else .flowMappingStart)

def closeBracket (l : Lexer) (sequence : Bool) : Except Fault Lexer := do
  let l ← l.dropCandidate
  let l := match l.outerCandidates with
    | c :: rest => { l with
        brackets := l.brackets.tail, candidate := c, outerCandidates := rest }
    | [] => l
  let l ← (({ l with keyAllowed := false } : Lexer).take 1).skipLine
  let l := if l.inFlow then { l with adjacentAt := some l.position.index } else l
  return l.emit (if sequence then .flowSequenceEnd else .flowMappingEnd)

def flowEntry (l : Lexer) : Except Fault Lexer := do
  let l ← l.dropCandidate
  let l ← (({ l with keyAllowed := true } : Lexer).take 1).skipLine
  return l.emit .flowEntry

/-- Whether the latest token is a property of a node, at the very start of a line. -/
def afterProperty (l : Lexer) : Bool :=
  match l.tokens with
  | .anchor _ :: _ => true
  | .tag _ _ :: _ => true
  | _ => false

def blockEntry (l : Lexer) : Except Fault Lexer := do
  if l.inFlow || !l.keyAllowed then .error .entryNotAllowed
  let column := l.position.column
  if l.afterProperty && column == 0 && l.candidate.column == 0 && -1 < l.indent then
    .error .badIndentation
  let l := (l.take 1).roll column none .blockSequenceStart
  let s ← l.position.skipBlanks true
  let p := s.position
  if s.tabs && p.peek == '-' && isGap p.peekSecond then .error .tabIndentation
  let l := { l with position := p }
  let l := if isBreak p.peek || isFlowMark p.peek then l.loosen else l
  let l ← l.dropCandidate
  return ({ l with keyAllowed := true } : Lexer).emit .blockEntry

/-- A question mark that announces a key of any form. -/
def explicitKey (l : Lexer) : Except Fault Lexer := do
  if !l.inFlow && !l.keyAllowed then .error .keyNotAllowed
  let l := l.roll l.position.column none .blockMappingStart
  let l ← l.dropCandidate
  let l := ({ l with keyAllowed := !l.inFlow } : Lexer).take 1
  let l ← l.skipToToken (l.position.rest.length + 1)
  return l.emit .key

/-- A tab after a colon may not be all that stands before the value. -/
def afterColon (l : Lexer) : Except Fault Lexer := do
  if l.position.peek != '\t' then return l
  let s ← l.position.skipBlanks true
  let c := s.position.peek
  if !s.spaces && (c == '-' || isNameChar c) then .error .tabIndentation
  return { l with position := s.position }

/-- A colon.  If a key can have begun before it, the key is announced where it began. -/
def colon (l : Lexer) : Except Fault Lexer := do
  let column := l.position.column
  let line := l.position.line
  let l ← (l.take 1).afterColon
  let c := l.candidate
  if c.possible then
    if l.brackets.head? == some true && c.line < line then .error .valueNotAllowed
    let l := l.insertAt c.number .key
    let l := (l.roll c.column (some c.number) .blockMappingStart).loosen
    let l := { l with candidate := { l.candidate with possible := false }, keyAllowed := false }
    return l.emit .value
  else if l.inFlow then return ({ l with keyAllowed := false } : Lexer).emit .value
  else if !l.keyAllowed then .error .valueNotAllowed
  else
    let l := (l.roll column none .blockMappingStart).loosen
    return ({ l with keyAllowed := true } : Lexer).emit .value

/-- A colon inside brackets without a blank after it: a bracket may follow only if the key ends
right before the colon and is quoted or in brackets. -/
def flowColon (l : Lexer) : Except Fault Lexer :=
  let next := l.position.peekSecond
  if l.adjacentAt != some l.position.index && (next == '[' || next == '\x7b') then
    .error .valueNotAllowed
  else l.colon

/-! ## Properties of nodes -/

def isAnchorChar (c : Char) : Bool :=
  !isGap c && !isFlowMark c && c != '\ufeff'

def anchor (l : Lexer) (make : String → Token) : Except Fault Lexer :=
  let l := ({ l.markCandidate with keyAllowed := false } : Lexer).take 1
  let (name, p) := l.position.takeWhile isAnchorChar
  if name.isEmpty then .error .badAnchor
  else .ok (({ l with position := p } : Lexer).emit (make (String.ofList name)))

def isUriChar (c : Char) : Bool :=
  c.isAlphanum || "-#;/?:@&=+$,_.!~*'()[]%".toList.contains c

def isTagChar (c : Char) : Bool :=
  isUriChar c && !isFlowMark c && c != '!'

/-- The handle that a tag starts with, its exclamation marks included. -/
def tagHandle (p : Position) : Except Fault (String × Position) :=
  if p.peek != '!' then .error .badTag
  else
    let (name, p) := (p.take 1).takeWhile isNameChar
    if p.peek == '!' then .ok (String.ofList ('!' :: name ++ ['!']), p.take 1)
    else .ok (String.ofList ('!' :: name), p)

/-- The two parts of a tag.  A name between exclamation marks is a handle; what follows a single
one belongs to the suffix. -/
def tagParts (p : Position) : Except Fault (String × String × Position) := do
  if p.peekSecond == '<' then
    let (uri, p) := (p.take 2).takeWhile isUriChar
    if p.peek == '>' then return ("", String.ofList uri, p.take 1)
    else .error .badTag
  else
    let (handle, p) ← tagHandle p
    let (suffix, p) := p.takeWhile isTagChar
    if 2 ≤ handle.length && handle.toList.getLast? == some '!' then
      if suffix.isEmpty then .error .badTag else return (handle, String.ofList suffix, p)
    else
      let suffix := handle.toList.drop 1 ++ suffix
      if suffix.isEmpty then return ("", "!", p) else return ("!", String.ofList suffix, p)

def tag (l : Lexer) : Except Fault Lexer := do
  let l := { l.markCandidate with keyAllowed := false }
  let (handle, suffix, p) ← tagParts l.position
  if isGap p.peek || (l.inFlow && isFlowMark p.peek) then
    return ({ l with position := p } : Lexer).emit (.tag handle suffix)
  else .error .badTag

/-! ## Documents -/

def versionDigits (p : Position) : Except Fault Position :=
  let (digits, p) := p.takeWhile Char.isDigit
  if digits.isEmpty || 9 < digits.length then .error .badDirective else .ok p

/-- The argument of a directive of the given name. -/
def directiveToken (name : String) (p : Position) : Except Fault (Token × Position) := do
  let p := p.advance (p.rest.takeWhile isSpace).length
  match name with
  | "YAML" =>
    let p ← versionDigits p
    if p.peek != '.' then .error .badDirective
    let p ← versionDigits (p.take 1)
    return (.versionDirective, p)
  | "TAG" =>
    let (handle, p) ← tagHandle p
    if handle != "!" && handle.toList.getLast? != some '!' then .error .badDirective
    let p := p.advance (p.rest.takeWhile isSpace).length
    let (expansion, p) := p.takeWhile isUriChar
    if expansion.isEmpty || !isGap p.peek then .error .badDirective
    return (.tagDirective handle (String.ofList expansion), p)
  | _ => return (.tagDirective "" "", p.skipComment)

/-- Close everything before a directive or a mark between documents. -/
def endBlocks (l : Lexer) : Except Fault Lexer := do
  let l ← (l.unroll (-1)).dropCandidate
  return { l with keyAllowed := false }

def directive (l : Lexer) : Except Fault Lexer := do
  let l ← l.endBlocks
  let (name, p) := (l.position.take 1).takeWhile isNameChar
  if name.isEmpty || !isGap p.peek then .error .badDirective
  let (token, p) ← directiveToken (String.ofList name) p
  let s ← p.skipBlanks true
  if isBreakOrEnd s.position.peek then
    return ({ l with position := s.position.breakLine } : Lexer).emit token
  else .error .badDirective

def documentStart (l : Lexer) : Except Fault Lexer := do
  return ((← l.endBlocks).take 3).emit .documentStart

/-- Nothing may follow the end of a document on its line. -/
def documentEnd (l : Lexer) : Except Fault Lexer := do
  let l ← ((← l.endBlocks).take 3).skipLine
  if isBreakOrEnd l.position.peek then return l.emit .documentEnd
  else .error .trailingContent

def streamEnd (l : Lexer) : Except Fault Lexer := do
  if (l.candidate :: l.outerCandidates).any fun c => c.possible && c.required then
    .error .noValueForKey
  return (← l.endBlocks).emit .streamEnd

/-! ## Scalars -/

def blockScalar (l : Lexer) (folded : Bool) : Except Fault Lexer := do
  let l := ({ l.markCandidate with keyAllowed := true } : Lexer).tighten
  let (p, text) ← readBlock folded l.indent l.position
  return ({ l with position := p } : Lexer).emit
    (.scalar (if folded then .folded else .literal) text)

def quotedScalar (l : Lexer) (single : Bool) : Except Fault Lexer := do
  let l := { l.markCandidate with keyAllowed := false }
  let (p, text) ← readQuoted single l.inFlow l.indent l.position
  let l ← ({ l with position := p } : Lexer).skipToToken (p.rest.length + 1)
  return ({ l with adjacentAt := some l.position.index } : Lexer).emit
    (.scalar (if single then .singleQuoted else .doubleQuoted) text)

def plainScalar (l : Lexer) : Except Fault Lexer := do
  let l := ({ l.markCandidate with keyAllowed := false } : Lexer).tighten
  let (p, text) ← readPlain l.inFlow (l.indent + 1) l.position
  return ({ l with position := p, keyAllowed := p.fresh } : Lexer).emit (.scalar .plain text)

/-! ## All tokens -/

/-- Read the next token, which starts at the position. -/
def readToken (l : Lexer) : Except Fault Lexer :=
  let p := l.position
  let c := p.peek
  let next := p.peekSecond
  if p.column == 0 && c == '%' then l.directive
  else if p.column == 0 && p.atMark '-' then l.documentStart
  else if p.column == 0 && p.atMark '.' then l.documentEnd
  else if p.column < l.indent then .error .badIndentation
  else if c == '[' then l.openBracket true
  else if c == '\x7b' then l.openBracket false
  else if c == ']' then l.closeBracket true
  else if c == '\x7d' then l.closeBracket false
  else if c == ',' then l.flowEntry
  else if c == '-' && isGap next then l.blockEntry
  else if c == '?' && isGap next then l.explicitKey
  else if c == ':' && isGap next then l.colon
  else if c == ':' && l.inFlow && (isFlowMark next || l.adjacentAt == some p.index) then l.flowColon
  else if c == '*' then l.anchor .alias
  else if c == '&' then l.anchor .anchor
  else if c == '!' then l.tag
  else if c == '|' && !l.inFlow then l.blockScalar false
  else if c == '>' && !l.inFlow then l.blockScalar true
  else if c == '\'' then l.quotedScalar true
  else if c == '"' then l.quotedScalar false
  else if c == '%' || c == '@' || c == '\x60' then .error (.unexpectedChar c)
  else l.plainScalar

/-- Skip to the next token and read it; at the end of the text, that is the last one. -/
def step (l : Lexer) : Except Fault Lexer := do
  let l ← l.skipToToken (l.position.rest.length + 1)
  let l ← l.expireCandidate
  let l := l.unroll l.position.column
  if l.position.rest.isEmpty then l.streamEnd else l.readToken

/-- Read tokens until the end of the stream or a fault.  Every token but the last one takes at
least one character, so the length of the text is budget enough. -/
def run : Nat → Lexer → List Token
  | 0, l => l.tokens.reverse
  | budget + 1, l =>
    match l.step with
    | .error e => (l.emit (.fault e)).tokens.reverse
    | .ok next =>
      match next.tokens with
      | .streamEnd :: _ => next.tokens.reverse
      | _ => run budget next

end Lexer

def tokensOf (text : List Char) : List Token :=
  let start := Position.start text
  Lexer.run (start.rest.length + 1) { position := start }

end DocLint.Yaml
