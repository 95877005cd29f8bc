import DocLint.Yaml.Position

/-!
# Block scalars

Literal and folded texts, whose lines are recognised by their indentation.  The header says what
becomes of the line breaks at the end and may fix the indentation; otherwise the first line with
content does.
-/
namespace DocLint.Yaml

/-- What becomes of the line breaks at the end. -/
inductive Chomping where
  | strip
  | clip
  | keep
deriving DecidableEq

structure BlockHeader where
  chomping : Chomping
  increment : Nat

def chompingMark? : List Char → Option (Chomping × List Char)
  | '+' :: rest => some (.keep, rest)
  | '-' :: rest => some (.strip, rest)
  | _ => none

/-- A digit that fixes the indentation, which may not be zero, and the text after it. -/
def incrementDigit (s : List Char) : Except Fault (Nat × List Char) :=
  match s with
  | c :: rest =>
    if c == '0' then .error .badBlockHeader
    else if c.isDigit then .ok (c.toNat - 48, rest)
    else .ok (0, s)
  | [] => .ok (0, s)

/-- Read the marks after `|` or `>`, in either order. -/
def readHeader (s : List Char) : Except Fault (BlockHeader × List Char) := do
  match chompingMark? s with
  | some (chomping, rest) =>
    let (increment, rest) ← incrementDigit rest
    return (⟨chomping, increment⟩, rest)
  | none =>
    let (increment, rest) ← incrementDigit s
    if increment == 0 then return (⟨.clip, 0⟩, rest)
    match chompingMark? rest with
    | some (chomping, rest) => return (⟨chomping, increment⟩, rest)
    | none => return (⟨.clip, increment⟩, rest)

/-- Skip the indentation of a line, up to a column if one is given. -/
def skipIndent (upTo : Option Nat) (p : Position) : Position :=
  let spaces := (p.rest.takeWhile (· == ' ')).length
  p.advance (match upTo with
    | some column => min spaces (column - p.column)
    | none => spaces)

/-- Skip lines without content; counts them and finds the greatest column reached. -/
def skipEmptyLines (upTo : Option Nat) :
    Nat → Position → Nat → Nat → Position × Nat × Nat
  | 0, p, breaks, widest => (p, breaks, widest)
  | budget + 1, p, breaks, widest =>
    let p := skipIndent upTo p
    let widest := max widest p.column
    if isBreak p.peek then skipEmptyLines upTo budget p.breakLine (breaks + 1) widest
    else (p, breaks, widest)

/-- Lines under reading: the text so far in reverse, whether a line break is pending and how many
empty lines follow it, and whether the last line started with a blank. -/
structure BlockLines where
  acc : List Char := []
  pending : Bool := false
  empty : Nat := 0
  indented : Bool := false

/-- What goes between two lines: the line breaks as they are, or folded if both lines start with
content. -/
def BlockLines.between (b : BlockLines) (folded nextIndented : Bool) : List Char :=
  if folded && b.pending && !b.indented && !nextIndented then
    if b.empty == 0 then [' '] else List.replicate b.empty '\n'
  else List.replicate (b.empty + if b.pending then 1 else 0) '\n'

/-- Read lines while they are indented as the text is. -/
def blockLines (folded : Bool) (indent : Nat) :
    Nat → Position → BlockLines → Position × BlockLines
  | 0, p, b => (p, b)
  | budget + 1, p, b =>
    if p.column != indent || p.rest.isEmpty || (indent == 0 && p.atMark '.') then (p, b)
    else
      let nextIndented := isSpace p.peek
      let line := p.rest.takeWhile fun c => !isBreak c
      let acc := line.reverse ++ (b.between folded nextIndented ++ b.acc)
      let p := p.advance line.length
      if p.rest.isEmpty then (p, ⟨acc, false, 0, nextIndented⟩)
      else
        let p := p.breakLine
        let (p, empty, _) := skipEmptyLines (some indent) p.rest.length p 0 0
        blockLines folded indent budget p ⟨acc, true, empty, nextIndented⟩

/-- What a text without any line stands for at the end of the stream. -/
def emptyBlock (chomping : Chomping) (sameLine : Bool) (empty : Nat) : List Char :=
  if chomping == .strip || sameLine then []
  else if chomping == .clip || empty == 0 then ['\n']
  else List.replicate empty '\n'

/-- Read a block scalar from its mark on; `parent` is the indentation of the block around it. -/
def readBlock (folded : Bool) (parent : Int) (p : Position) : Except Fault (Position × String) := do
  let marks := p.rest.drop 1
  let (header, rest) ← readHeader marks
  let s ← (p.take (1 + (marks.length - rest.length))).skipBlanks true
  let q := s.position
  if !isBreakOrEnd q.peek then .error .badBlockHeader
  let q := if q.rest.isEmpty then q else q.breakLine
  if q.peek == '\t' then .error .tabIndentation
  let fixed : Nat := if header.increment == 0 then 0
    else if 0 ≤ parent then parent.toNat + header.increment else header.increment
  let (q, empty, widest) :=
    skipEmptyLines (if fixed == 0 then none else some fixed) (q.rest.length + 1) q 0 0
  let indent := if fixed == 0 then
      max (max widest (parent + 1).toNat) (if 0 < parent then 1 else 0)
    else fixed
  if q.rest.isEmpty then
    return (q, String.ofList (emptyBlock header.chomping (q.line == p.line) empty))
  if q.column < indent && parent < q.column then .error .badIndentation
  let (q, b) := blockLines folded indent q.rest.length q { empty }
  let unfinished := q.rest.isEmpty && max indent 1 ≤ q.column
  let tail :=
    if header.chomping == .strip then 0
    else (if b.pending then 1 else 0) + (if unfinished then 1 else 0) +
      (if header.chomping == .keep then b.empty else 0)
  return (q, String.ofList (b.acc.reverse ++ List.replicate tail '\n'))

end DocLint.Yaml
