import DocLint.Pattern.Class
import DocLint.Pattern.Occurrence

/-!
# Reading patterns

The usual notation of patterns: alternatives, sequences, repetitions with `*`, `+`, `?` and counts,
groups with and without names, flags, classes and anchors.  Flags set in a group hold up to its
end, across alternatives.  There is no look-around and no reference to groups.  Loops have an
explicit budget, for which the length of the text is enough.
-/
namespace DocLint.Pattern

/-- A part of a pattern and its size when compiled, in bytes. -/
structure Piece where
  pattern : Pattern
  size : Nat

def maxSize : Nat := 10 * 0x100000

def maxLevel : Nat := 250

def stepSize : Nat := 32

/-- Whether a pattern matches nothing but the empty text. -/
def matchesNothing : Pattern → Bool
  | empty => true
  | oneOf _ => false
  | anchor _ => true
  | run _ _ most _ => most == Option.some 0
  | seq first second => first.matchesNothing && second.matchesNothing
  | alt preferred other => preferred.matchesNothing && other.matchesNothing
  | times body _ most _ => most == Option.some 0 || body.matchesNothing
  | group _ body => body.matchesNothing

namespace Piece

def sequence (pieces : List Piece) : Piece :=
  ⟨Pattern.sequence (pieces.map (·.pattern)), pieces.foldl (fun n p => n + p.size) 0⟩

/-- A repetition.  More than one round of nothing is one round of nothing. -/
def repeated (p : Piece) (least : Nat) (most : Option Nat) (greedy : Bool) : Piece :=
  if p.pattern.matchesNothing then
    ⟨.times p.pattern (min least 1) (Option.some (min (most.getD 1) 1)) greedy, p.size⟩
  else
    let body :=
      match p.pattern with
      | .oneOf set => run set least most greedy
      | pattern => times pattern least most greedy
    match most with
    | Option.some m => ⟨body, p.size * m + 2 * stepSize * (m - least)⟩
    | Option.none => ⟨body, p.size * max least 1 + 2 * stepSize⟩

end Piece

/-! ## Counts -/

/-- A decimal number with blanks around it; the budget is one of characters. -/
def readDigits : Nat → Reading → List Char → List Char × Reading
  | 0, r, acc => (acc.reverse, r)
  | budget + 1, r, acc =>
    match r.rest with
    | c :: _ => if c.isDigit then readDigits budget r.next (c :: acc) else (acc.reverse, r)
    | [] => (acc.reverse, r)

/-- Skip blanks, which may stand around counts. -/
def Reading.skipBlanks (r : Reading) : Reading :=
  ({ r with rest := r.rest.dropWhile Text.isBlank } : Reading).skip

def readCount (r : Reading) : Except ReadError (Nat × Reading) := do
  let r := r.skipBlanks
  let (digits, r) := readDigits r.rest.length r []
  if digits.isEmpty then .error .badCount
  let n := digits.foldl (fun n c => n * 10 + (c.toNat - 48)) 0
  if 0x100000000 ≤ n then .error .badCount
  return (n, r.skipBlanks)

/-- The bounds of a repetition between braces, from the opening brace on. -/
def readBounds (r : Reading) : Except ReadError (Nat × Option Nat × Reading) := do
  let (least, r) ← readCount r.next
  match r.rest with
  | ',' :: _ =>
    let r := r.next
    if r.rest.head? == Option.some '\x7d' then return (least, Option.none, r.next)
    let (most, r) ← readCount r
    if r.rest.head? != Option.some '\x7d' || most < least then .error .badCount
    return (least, Option.some most, r.next)
  | '\x7d' :: _ => return (least, Option.some least, r.next)
  | _ => .error .badCount

/-! ## Flags and names of groups -/

def Flags.set? (f : Flags) (c : Char) (on : Bool) : Option Flags :=
  match c with
  | 'i' => Option.some { f with ignoreCase := on }
  | 'm' => Option.some { f with multiLine := on }
  | 's' => Option.some { f with dotAll := on }
  | 'U' => Option.some { f with swapGreed := on }
  | 'R' => Option.some { f with crlf := on }
  | 'u' => Option.some { f with unicode := on }
  | 'x' => Option.some { f with extended := on }
  | _ => Option.none

/-- Read flags up to `:` or `)`, which is not consumed.  A hyphen, which may come once and not
last, switches the flags after it off; no flag is given twice. -/
def readFlags (f : Flags) (seen : List Char) : List Char → Except ReadError (Flags × List Char)
  | [] => .error .unexpectedEnd
  | c :: rest =>
    if c == ':' || c == ')' then
      if seen.head? == Option.some '-' then .error .badFlag else .ok (f, c :: rest)
    else if seen.contains c then .error .badFlag
    else if c == '-' then readFlags f (c :: seen) rest
    else
      match f.set? c (!seen.contains '-') with
      | Option.some f => readFlags f (c :: seen) rest
      | Option.none => .error .badFlag

def isGroupLetter : Char → Bool := fun c =>
  if c.toNat < 128 then Unicode.isAsciiLetter c
  else match Unicode.property? "alphabetic".toList with
    | Option.some alphabetic => alphabetic c
    | Option.none => false

def isGroupNumber : Char → Bool := fun c =>
  if c.toNat < 128 then Unicode.isAsciiDigit c else Unicode.inCategories ["nd", "nl", "no"] c

/-- Whether a text is the name of a group: a letter or `_`, then also numbers, dots and square
brackets. -/
def isGroupName : List Char → Bool
  | [] => false
  | c :: rest =>
    (c == '_' || isGroupLetter c) &&
      rest.all fun c => c == '_' || c == '.' || c == '[' || c == ']' || isGroupLetter c ||
        isGroupNumber c

/-- What opens a group: the state inside it, and the number of the group if it has one. -/
structure Opening where
  inside : Reading
  index : Option Nat

def openNumbered (r : Reading) : Opening :=
  ⟨{ r with groups := r.groups + 1 }, Option.some (r.groups + 1)⟩

def openNamed (r : Reading) : Except ReadError Opening := do
  let name := r.rest.takeWhile (· != '>')
  let after := r.rest.drop name.length
  if after.isEmpty || !isGroupName name then .error .badGroupName
  let name := String.ofList name
  if r.names.contains name then .error .repeatedGroupName
  return openNumbered { r with rest := after.tail, names := name :: r.names }

/-- Read what stands between an opening parenthesis and the body of the group; `none` if that is
all, and only the flags change. -/
def readOpening (r : Reading) : Except ReadError (Opening ⊕ Reading) := do
  let r := r.next
  match r.rest with
  | '?' :: '=' :: _ => .error .lookAround
  | '?' :: '!' :: _ => .error .lookAround
  | '?' :: '<' :: '=' :: _ => .error .lookAround
  | '?' :: '<' :: '!' :: _ => .error .lookAround
  | '?' :: 'P' :: '<' :: rest => return .inl (← openNamed { r with rest })
  | '?' :: '<' :: rest => return .inl (← openNamed { r with rest })
  | '?' :: rest =>
    let (flags, after) ← readFlags r.flags [] rest
    let r := { r with rest := after.tail, flags }
    if after.head? == Option.some ':' then return .inl ⟨r, Option.none⟩
    else if after.length == rest.length then .error .nothingToRepeat
    else return .inr r
  | _ => return .inl (openNumbered r)

/-! ## Expressions -/

def Flags.dot (f : Flags) : CharSet :=
  if f.dotAll then CharSet.all
  else if f.crlf then CharSet.except ['\r', '\n']
  else CharSet.except ['\n']

def Flags.caret (f : Flags) : Anchor :=
  if !f.multiLine then .textStart else if f.crlf then .crlfLineStart else .lineStart

def Flags.dollar (f : Flags) : Anchor :=
  if !f.multiLine then .textEnd else if f.crlf then .crlfLineEnd else .lineEnd

def charPiece (f : Flags) (c : Char) : Piece :=
  ⟨oneOf (f.fold (CharSet.one c)), if f.ignoreCase then asciiSize + 8 else stepSize * c.utf8Size⟩

def atomPiece (f : Flags) : Atom → Piece
  | .char c => charPiece f c
  | .set s size => ⟨oneOf s, size⟩
  | .condition a => ⟨anchor a, stepSize⟩

/-- A class, an escape, an anchor, the dot or a character that stands for itself. -/
def readPrimitive (c : Char) (r : Reading) : Except ReadError (Piece × Reading) := do
  if c == '[' then
    let (s, size, r) ← readClass r
    return (⟨oneOf s, size⟩, r)
  else if c == '\\' then
    let (atom, r) ← readEscape r
    return (atomPiece r.flags atom, r)
  else if c == '.' then
    if !r.flags.unicode then .error .notText
    return (⟨oneOf r.flags.dot, wideSize⟩, r.bump)
  else if c == '^' then return (⟨anchor r.flags.caret, stepSize⟩, r.bump)
  else if c == '$' then return (⟨anchor r.flags.dollar, stepSize⟩, r.bump)
  else return (charPiece r.flags c, r.bump)

/-- Apply a repetition to the latest piece; flags cannot be repeated.  A question mark after the
repetition swaps its greed. -/
def repeatLast (least : Nat) (most : Option Nat) (pieces : List (Option Piece)) (r : Reading) :
    Except ReadError (List (Option Piece) × Reading) :=
  match pieces with
  | Option.some p :: before =>
    let lazy := r.rest.head? == Option.some '?'
    let r := if lazy then r.bump else r
    .ok (Option.some (p.repeated least most (lazy == r.flags.swapGreed)) :: before, r)
  | _ => .error .nothingToRepeat

def readRepetition (c : Char) (pieces : List (Option Piece)) (r : Reading) :
    Except ReadError (List (Option Piece) × Reading) := do
  if c == '*' then repeatLast 0 Option.none pieces r.bump
  else if c == '+' then repeatLast 1 Option.none pieces r.bump
  else if c == '?' then repeatLast 0 (Option.some 1) pieces r.bump
  else
    if pieces.head?.join.isNone then .error .nothingToRepeat
    let (least, most, r) ← readBounds r
    repeatLast least most pieces r

def isRepetition (c : Char) : Bool :=
  c == '*' || c == '+' || c == '?' || c == '\x7b'

mutual
/-- Read alternatives up to the end of the group or of the text.  The budget counts characters,
`level` the groups around. -/
def readAlternatives (level : Nat) : Nat → Reading → Except ReadError (Piece × Reading)
  | 0, _ => .error .unexpectedEnd
  | budget + 1, r => do
    let (piece, r) ← readBranch level budget [] r
    match r.rest with
    | '|' :: _ =>
      let (other, r) ← readAlternatives level budget r.bump
      return (⟨alt piece.pattern other.pattern, piece.size + other.size + stepSize⟩, r)
    | _ => return (piece, r)

/-- Read one alternative; the pieces so far are in reverse, `none` stands for a change of
flags. -/
def readBranch (level : Nat) :
    Nat → List (Option Piece) → Reading → Except ReadError (Piece × Reading)
  | 0, _, _ => .error .unexpectedEnd
  | budget + 1, pieces, r => do
    let r := r.skip
    match r.rest with
    | [] => return (Piece.sequence (pieces.reverse.filterMap id), r)
    | c :: _ =>
      if c == ')' || c == '|' then return (Piece.sequence (pieces.reverse.filterMap id), r)
      else if isRepetition c then
        let (pieces, r) ← readRepetition c pieces r
        readBranch level budget pieces r
      else if c == '(' then
        match ← readOpening r with
        | .inr r => readBranch level budget (Option.none :: pieces) r
        | .inl opening =>
          if maxLevel ≤ level then .error .tooDeep
          let (body, inner) ← readAlternatives (level + 1) budget opening.inside
          if inner.rest.head? != Option.some ')' then .error .unclosedGroup
          let piece : Piece :=
            match opening.index with
            | Option.some index => ⟨group index body.pattern, body.size + 2 * stepSize⟩
            | Option.none => body
          let r := { inner with rest := inner.rest.tail, flags := r.flags }
          readBranch level budget (Option.some piece :: pieces) r
      else
        let (piece, r) ← readPrimitive c r
        readBranch level budget (Option.some piece :: pieces) r
end

def read (text : String) : Except ReadError Pattern := do
  let chars := text.toList
  let (piece, r) ← readAlternatives 0 (2 * chars.length + 2) { rest := chars }
  if !r.rest.isEmpty then .error .unopenedGroup
  if maxSize < piece.size then .error .tooBig
  return piece.pattern

end DocLint.Pattern
