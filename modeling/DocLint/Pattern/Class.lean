import DocLint.Pattern.Escape

/-!
# Classes of characters in brackets

A class lists characters, ranges, named sets and further classes.  Two marks in a row combine what
stands before them with what follows: both, one but not the other, or exactly one of them; all
three bind alike, from left to right.
-/
namespace DocLint.Pattern

inductive SetOperation where
  | both
  | without
  | oneOfTwo

def SetOperation.apply : SetOperation → CharSet → CharSet → CharSet
  | both, s, t => s.inter t
  | without, s, t => s.diff t
  | oneOfTwo, s, t => s.symmDiff t

def asciiSet? : String → Option CharSet
  | "alnum" => Option.some fun c => Unicode.isAsciiLetter c || Unicode.isAsciiDigit c
  | "alpha" => Option.some Unicode.isAsciiLetter
  | "ascii" => Option.some (CharSet.range '\x00' '\x7f')
  | "blank" => Option.some fun c => c == '\t' || c == ' '
  | "cntrl" => Option.some fun c => c.toNat < 32 || c == '\x7f'
  | "digit" => Option.some Unicode.isAsciiDigit
  | "graph" => Option.some (CharSet.range '!' '~')
  | "lower" => Option.some (CharSet.range 'a' 'z')
  | "print" => Option.some (CharSet.range ' ' '~')
  | "punct" => Option.some fun c =>
      CharSet.range '!' '~' c && !Unicode.isAsciiLetter c && !Unicode.isAsciiDigit c
  | "space" => Option.some isAsciiSpace
  | "upper" => Option.some (CharSet.range 'A' 'Z')
  | "word" => Option.some Unicode.isAsciiWordChar
  | "xdigit" => Option.some fun c => (Unicode.hexValue? c).isSome
  | _ => Option.none

/-- A named set between `[:` and `:]`: the set, whether its complement is meant, and the text
after it. -/
def asciiClass? (s : List Char) : Option (CharSet × Bool × List Char) :=
  match s with
  | '[' :: ':' :: rest =>
    let negated := rest.head? == Option.some '^'
    let rest := if negated then rest.tail else rest
    let name := rest.takeWhile (· != ':')
    match rest.dropWhile (· != ':') with
    | ':' :: ']' :: after =>
      (asciiSet? (String.ofList name)).map fun set => (set, negated, after)
    | _ => Option.none
  | _ => Option.none

/-- A class under reading: the set before the latest operation, the set since then, and the size
of both. -/
structure ClassDraft where
  negated : Bool
  pending : Option (SetOperation × CharSet) := Option.none
  current : CharSet := CharSet.none
  size : Nat := asciiSize

namespace ClassDraft

def add (d : ClassDraft) (s : CharSet) (size : Nat) : ClassDraft :=
  { d with current := d.current.union s, size := d.size + size }

def combined (d : ClassDraft) (f : Flags) : CharSet :=
  match d.pending with
  | Option.none => d.current
  | Option.some (operation, s) => operation.apply (f.fold s) (f.fold d.current)

def operate (d : ClassDraft) (f : Flags) (operation : SetOperation) : ClassDraft :=
  { d with pending := Option.some (operation, d.combined f), current := CharSet.none }

end ClassDraft

def rangeSize (high : Char) : Nat := if high.toNat < 128 then 8 else 100

/-- A character or a named set, or an escape that stands for one. -/
def readClassAtom (r : Reading) : Except ReadError (Atom × Reading) :=
  match r.rest with
  | [] => .error .unclosedClass
  | c :: _ => if c == '\\' then readEscape r else .ok (.char c, r.bump)

/-- A character as a member of a class; without Unicode it has to be ASCII. -/
def member (f : Flags) (c : Char) : Except ReadError Char :=
  if !f.unicode && 128 ≤ c.toNat then .error .notText else .ok c

/-- Whether a range goes on here: there is a hyphen, and neither the end of the class nor a second
hyphen follows. -/
def atRange (r : Reading) : Bool :=
  r.rest.head? == Option.some '-' && r.next.rest.head? != Option.some ']' &&
    r.next.rest.head? != Option.some '-'

def readClassItem (d : ClassDraft) (r : Reading) : Except ReadError (ClassDraft × Reading) := do
  let (first, r) ← readClassAtom r
  let r := r.skip
  if r.rest.isEmpty then .error .unclosedClass
  if atRange r then
    let (last, r) ← readClassAtom r.next
    match first, last with
    | .char a, .char b =>
      let a ← member r.flags a
      let b ← member r.flags b
      if b < a then .error .badRange
      return (d.add (CharSet.range a b) (rangeSize b), r)
    | _, _ => .error .badRange
  else
    match first with
    | .char a =>
      let a ← member r.flags a
      return (d.add (CharSet.one a) (rangeSize a), r)
    | .set s size => return (d.add s size, r)
    | .condition _ => .error .badClassItem

/-- Hyphens at the start of a class stand for themselves; tells whether there are any.  The first
argument is a budget of characters. -/
def skipHyphens : Nat → Reading → Bool → Reading × Bool
  | 0, r, found => (r, found)
  | budget + 1, r, found =>
    if r.rest.head? == Option.some '-' then skipHyphens budget r.next true else (r, found)

/-- The start of a class: its complement mark, and the characters that stand for themselves only
there. -/
def openClass (r : Reading) : ClassDraft × Reading :=
  let r := r.next
  let negated := r.rest.head? == Option.some '^'
  let r := if negated then r.next else r
  let (r, hyphens) := skipHyphens r.rest.length r false
  if hyphens then (ClassDraft.add { negated } (CharSet.one '-') 8, r)
  else if r.rest.head? == Option.some ']' then
    (ClassDraft.add { negated } (CharSet.one ']') 8, r.next)
  else ({ negated }, r)

/-- Read the rest of a class with a budget of characters; yields its set and size. -/
def readClassRest : Nat → ClassDraft → Reading → Except ReadError (CharSet × Nat × Reading)
  | 0, _, _ => .error .unclosedClass
  | budget + 1, d, r => do
    let r := r.skip
    match r.rest with
    | [] => .error .unclosedClass
    | '[' :: _ =>
      match asciiClass? r.rest with
      | Option.some (s, negated, after) =>
        let s ← r.flags.finish negated s
        readClassRest budget (d.add s (if negated then wideSize else asciiSize))
          { r with rest := after }
      | Option.none =>
        let (inner, start) := openClass r
        let (s, size, r) ← readClassRest budget inner start
        readClassRest budget (d.add s size) r
    | ']' :: _ =>
      let s ← r.flags.finish d.negated (d.combined r.flags)
      return (s, if d.negated then d.size + wideSize else d.size, r.bump)
    | '&' :: '&' :: rest => readClassRest budget (d.operate r.flags .both) { r with rest }
    | '-' :: '-' :: rest => readClassRest budget (d.operate r.flags .without) { r with rest }
    | '~' :: '~' :: rest => readClassRest budget (d.operate r.flags .oneOfTwo) { r with rest }
    | _ =>
      let (d, r) ← readClassItem d r
      readClassRest budget d r

/-- Read a class from its opening bracket on. -/
def readClass (r : Reading) : Except ReadError (CharSet × Nat × Reading) :=
  let (d, start) := openClass r
  readClassRest (r.rest.length + 1) d start

end DocLint.Pattern
