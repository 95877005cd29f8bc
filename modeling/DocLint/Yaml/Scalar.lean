import DocLint.Yaml.Position
import DocLint.Unicode.Ranges

/-!
# Scalars of one or more lines

Plain and quoted scalars.  Both fold their line breaks.  Loops have an explicit budget, for which
the length of the text is enough.
-/
namespace DocLint.Yaml

/-! ## Plain scalars -/

/-- Whether a character ends a plain scalar although it is no blank. -/
def endsPlain (flow : Bool) (c next : Char) : Bool :=
  (c == ':' && (isGap next || (flow && isFlowMark next))) || (flow && isFlowMark c)

def plainWord (flow : Bool) : List Char → List Char
  | [] => []
  | c :: rest =>
    if isGap c || endsPlain flow c (rest.headD endMark) then [] else c :: plainWord flow rest

/-- Read the gap after a word of a plain scalar.  A tab may not stand where indentation is
required, unless nothing follows on its line. -/
def plainGap (indent : Int) : Nat → Position → Gap → Except Fault (Position × Gap)
  | 0, p, gap => .ok (p, gap)
  | budget + 1, p, gap =>
    let c := p.peek
    if isBreak c then plainGap indent budget p.breakLine { gap with breaks := gap.breaks + 1 }
    else if !isSpace c then .ok (p, gap)
    else if gap.breaks == 0 then
      plainGap indent budget (p.advance 1) { gap with blanks := gap.blanks ++ [c] }
    else if c == '\t' && p.column < indent then
      match p.skipBlanks true with
      | .error e => .error e
      | .ok s =>
        if isBreakOrEnd s.position.peek then plainGap indent budget s.position gap
        else .error .tabIndentation
    else plainGap indent budget (p.advance 1) gap

def plainWords (flow : Bool) (indent : Int) :
    Nat → Position → Gap → List Char → Except Fault (Position × List Char)
  | 0, p, _, acc => .ok (p, acc)
  | budget + 1, p, gap, acc =>
    if p.atDocumentMark || p.peek == '#' then .ok (p, acc)
    else if flow && p.peek == '-' && isFlowMark p.peekSecond then .error (.unexpectedChar '-')
    else
      let word := plainWord flow p.rest
      if word.isEmpty then .ok (p, acc)
      else
        let p := p.take word.length
        let acc := word.reverse ++ (gap.text.reverse ++ acc)
        if !isSpace p.peek && !isBreak p.peek then .ok (p, acc)
        else
          match plainGap indent p.rest.length p {} with
          | .error e => .error e
          | .ok (p, gap) =>
            if !flow && p.column < indent then .ok (p, acc)
            else plainWords flow indent budget p gap acc

/-- Read a plain scalar that has to be indented by at least `indent`. -/
def readPlain (flow : Bool) (indent : Int) (p : Position) : Except Fault (Position × String) :=
  if flow && p.column < indent then .error .badIndentation
  else
    match plainWords flow indent p.rest.length p {} [] with
    | .error e => .error e
    | .ok (_, []) => .error (.unexpectedChar p.peek)
    | .ok (q, acc) => .ok (q, String.ofList acc.reverse)

/-! ## Quoted scalars -/

def hexValue? (digits : List Char) : Option Nat :=
  digits.foldl
    (fun value c => value.bind fun n => (Unicode.hexValue? c).map fun d => n * 16 + d) (some 0)

def hexEscape (length : Nat) (digits : List Char) : Except Fault (Char × Nat) :=
  if digits.length < length then .error .badEscape
  else
    match hexValue? (digits.take length) with
    | none => .error .badEscape
    | some n => if n.isValidChar then .ok (Char.ofNat n, length + 2) else .error .badEscape

/-- The character that an escape stands for and the length of the escape; the list starts after
the backslash. -/
def readEscape : List Char → Except Fault (Char × Nat)
  | [] => .error .badEscape
  | c :: rest =>
    match c with
    | '0' => .ok ('\x00', 2)
    | 'a' => .ok ('\x07', 2)
    | 'b' => .ok ('\x08', 2)
    | 't' => .ok ('\t', 2)
    | '\t' => .ok ('\t', 2)
    | 'n' => .ok ('\n', 2)
    | 'v' => .ok ('\x0b', 2)
    | 'f' => .ok ('\x0c', 2)
    | 'r' => .ok ('\r', 2)
    | 'e' => .ok ('\x1b', 2)
    | ' ' => .ok (' ', 2)
    | '"' => .ok ('"', 2)
    | '/' => .ok ('/', 2)
    | '\\' => .ok ('\\', 2)
    | 'N' => .ok ('\u0085', 2)
    | '_' => .ok ('\u00a0', 2)
    | 'L' => .ok ('\u2028', 2)
    | 'P' => .ok ('\u2029', 2)
    | 'x' => hexEscape 2 rest
    | 'u' => hexEscape 4 rest
    | 'U' => hexEscape 8 rest
    | _ => .error .badEscape

def quoteMark (single : Bool) : Char := if single then '\'' else '"'

/-- Read up to the next gap or the closing quote; tells whether a backslash hides a line break
there. -/
def quotedWord (single : Bool) :
    Nat → Position → List Char → Except Fault (Position × List Char × Bool)
  | 0, p, acc => .ok (p, acc, false)
  | budget + 1, p, acc =>
    let c := p.peek
    if isGap c then .ok (p, acc, false)
    else if single && c == '\'' && p.peekSecond == '\'' then
      quotedWord single budget (p.take 2) ('\'' :: acc)
    else if c == quoteMark single then .ok (p, acc, false)
    else if !single && c == '\\' then
      if isBreak p.peekSecond then .ok ((p.take 1).breakLine, acc, true)
      else
        match readEscape (p.rest.drop 1) with
        | .error e => .error e
        | .ok (x, length) => quotedWord single budget (p.take length) (x :: acc)
    else quotedWord single budget (p.take 1) (c :: acc)

def quotedGap (indent : Int) : Nat → Position → Gap → Except Fault (Position × Gap)
  | 0, p, gap => .ok (p, gap)
  | budget + 1, p, gap =>
    let c := p.peek
    if isBreak c then quotedGap indent budget p.breakLine { gap with breaks := gap.breaks + 1 }
    else if !isSpace c then .ok (p, gap)
    else if gap.breaks == 0 && !gap.joined then
      quotedGap indent budget (p.advance 1) { gap with blanks := gap.blanks ++ [c] }
    else if c == '\t' && p.column < indent then .error .tabIndentation
    else quotedGap indent budget (p.advance 1) gap

def quotedWords (single : Bool) (indent : Int) :
    Nat → Position → List Char → Except Fault (Position × List Char)
  | 0, _, _ => .error .unclosedQuote
  | budget + 1, p, acc =>
    if p.atDocumentMark || p.rest.isEmpty then .error .unclosedQuote
    else if p.column < indent then .error .badIndentation
    else
      match quotedWord single p.rest.length p acc with
      | .error e => .error e
      | .ok (p, acc, joined) =>
        if p.peek == quoteMark single then .ok (p.take 1, acc)
        else
          match quotedGap indent p.rest.length p { joined } with
          | .error e => .error e
          | .ok (p, gap) => quotedWords single indent budget p (gap.text.reverse ++ acc)

/-- What may follow a quoted scalar on its line: nothing, the colon of a key on one line, or a mark
of the collection around it. -/
def mayFollowQuoted (flow : Bool) (first : Position) (p : Position) : Bool :=
  let c := p.peek
  isBreakOrEnd c ||
    (if flow then c == ',' || c == '\x7d' || c == ']' || c == ':'
    else c == ':' && first.line == p.line)

/-- Read a quoted scalar from its opening quote on. -/
def readQuoted (single flow : Bool) (indent : Int) (p : Position) :
    Except Fault (Position × String) := do
  let (q, acc) ← quotedWords single indent (p.rest.length + 1) (p.take 1) []
  let s ← q.skipBlanks true
  if mayFollowQuoted flow p s.position then .ok (s.position, String.ofList acc.reverse)
  else .error .trailingContent

end DocLint.Yaml
