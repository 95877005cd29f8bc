import DocLint.Pattern.Basic
import DocLint.Unicode.Property

/-!
# Escapes in written patterns

A written pattern is read under flags that groups can change: case, lines, the dot, greed, Unicode
and whether blanks and comments count.  This module holds the flags, the state of reading and what
a backslash introduces.
-/
namespace DocLint.Pattern

inductive ReadError where
  | unexpectedEnd
  | unclosedGroup
  | unopenedGroup
  | unclosedClass
  | nothingToRepeat
  | badCount
  | badEscape
  | badClassItem
  | badRange
  | badFlag
  | badGroupName
  | repeatedGroupName
  | lookAround
  | backReference
  | unknownProperty
  | notText
  | tooDeep
  | tooBig
deriving DecidableEq, Repr

def ReadError.message : ReadError → String
  | .unexpectedEnd => "the pattern ends too early"
  | .unclosedGroup => "unclosed group"
  | .unopenedGroup => "unopened group"
  | .unclosedClass => "unclosed character class"
  | .nothingToRepeat => "nothing to repeat"
  | .badCount => "invalid repetition count"
  | .badEscape => "unrecognized escape sequence"
  | .badClassItem => "not a character of a class"
  | .badRange => "invalid range of characters"
  | .badFlag => "unrecognized flag"
  | .badGroupName => "invalid name of a group"
  | .repeatedGroupName => "a name of a group is given twice"
  | .lookAround => "look-around is not supported"
  | .backReference => "references to groups are not supported"
  | .unknownProperty => "unknown Unicode property"
  | .notText => "the pattern can match what is no text"
  | .tooDeep => "groups are nested too deep"
  | .tooBig => "the pattern is too big"

structure Flags where
  ignoreCase : Bool := false
  multiLine : Bool := false
  dotAll : Bool := false
  swapGreed : Bool := false
  crlf : Bool := false
  unicode : Bool := true
  extended : Bool := false

/-- The text to come, the flags in force, and the groups so far. -/
structure Reading where
  rest : List Char
  flags : Flags := {}
  groups : Nat := 0
  names : List String := []

/-- Skip blanks and comments, which reach to the end of their line. -/
def skipIgnored : Bool → List Char → List Char
  | _, [] => []
  | true, c :: rest => if c == '\n' then skipIgnored false rest else skipIgnored true rest
  | false, c :: rest =>
    if Text.isBlank c then skipIgnored false rest
    else if c == '#' then skipIgnored true rest
    else c :: rest

namespace Reading

def skip (r : Reading) : Reading :=
  if r.flags.extended then { r with rest := skipIgnored false r.rest } else r

def bump (r : Reading) : Reading := { r with rest := r.rest.tail }

def next (r : Reading) : Reading := r.bump.skip

end Reading

/-! ## Sets under flags -/

def foldAscii (s : CharSet) : CharSet := fun c => s c || s (Unicode.swapAsciiCase c)

/-- A set as the flags want it when case counts or not. -/
def Flags.fold (f : Flags) (s : CharSet) : CharSet :=
  if !f.ignoreCase then s else if f.unicode then s.fold else foldAscii s

/-- Whether a set holds bytes that are no text on their own. -/
def hasHighBytes (s : CharSet) : Bool :=
  (List.range 128).any fun n => s (Char.ofNat (128 + n))

/-- A set, or all but a set, under the flags.  Without Unicode, sets are sets of bytes, and only
ASCII bytes are text. -/
def Flags.finish (f : Flags) (negated : Bool) (s : CharSet) : Except ReadError CharSet :=
  let s := f.fold s
  let s := if negated then s.others else s
  if !f.unicode && hasHighBytes s then .error .notText else .ok s

def Flags.word (f : Flags) : CharSet :=
  if f.unicode then Unicode.isWordChar else Unicode.isAsciiWordChar

def isAsciiSpace (c : Char) : Bool :=
  c == ' ' || ('\t' ≤ c && c ≤ '\r')

/-! ## Sizes -/

/-- The size of a set of ASCII characters in a compiled pattern, in bytes. -/
def asciiSize : Nat := 40

/-- The size of a simple set with characters beyond ASCII. -/
def wideSize : Nat := 600

/-- The size of a set that is given by a large table. -/
def tableSize : Nat := 60000

/-- What an escape stands for; a set comes with its size. -/
inductive Atom where
  | char (c : Char)
  | set (s : CharSet) (size : Nat)
  | condition (a : Anchor)

/-! ## Escapes by number -/

def charOf (digits : List Char) : Except ReadError Char :=
  match digits.foldl (fun n c => n * 16 + (Unicode.hexValue? c).getD 0) 0 with
  | n => if n.isValidChar then .ok (Char.ofNat n) else .error .badEscape

def readHexDigits : Nat → Reading → List Char → Except ReadError (List Char × Reading)
  | 0, r, acc => .ok (acc.reverse, r)
  | n + 1, r, acc =>
    match r.rest with
    | [] => .error .unexpectedEnd
    | c :: _ =>
      if (Unicode.hexValue? c).isSome then readHexDigits n r.next (c :: acc) else .error .badEscape

/-- Hexadecimal digits up to a closing brace, with a budget of characters. -/
def readBracedHex : Nat → Reading → List Char → Except ReadError (List Char × Reading)
  | 0, _, _ => .error .unexpectedEnd
  | budget + 1, r, acc =>
    match r.rest with
    | [] => .error .unexpectedEnd
    | c :: _ =>
      if c == '\x7d' then
        if acc.isEmpty then .error .badEscape else .ok (acc.reverse, r.next)
      else if (Unicode.hexValue? c).isSome then readBracedHex budget r.next (c :: acc)
      else .error .badEscape

/-- A code point after `x`, `u` or `U`.  Without Unicode, two digits give a byte. -/
def readCodePoint (length : Nat) (r : Reading) : Except ReadError (Atom × Reading) := do
  let r := r.next
  if r.rest.head? == Option.some '\x7b' then
    let (digits, r) ← readBracedHex r.rest.length r.next []
    return (.char (← charOf digits), r)
  else
    let (digits, r) ← readHexDigits length r []
    let c ← charOf digits
    if !r.flags.unicode && length == 2 && 128 ≤ c.toNat then .error .notText
    return (.char c, r)

/-! ## Escapes by name -/

def readBraced : Nat → Reading → List Char → Except ReadError (List Char × Reading)
  | 0, _, _ => .error .unexpectedEnd
  | budget + 1, r, acc =>
    match r.rest with
    | [] => .error .unexpectedEnd
    | c :: _ =>
      if c == '\x7d' then .ok (acc.reverse, r.bump) else readBraced budget r.next (c :: acc)

/-- The parts of a name before and after the first of some marks. -/
def splitName? (mark : List Char) : List Char → Option (List Char × List Char)
  | [] => Option.none
  | c :: rest =>
    if mark.isPrefixOf (c :: rest) then Option.some ([], (c :: rest).drop mark.length)
    else (splitName? mark rest).map fun parts => (c :: parts.1, parts.2)

/-- The set of a property in braces; tells whether it is meant as a complement. -/
def namedSet (name : List Char) : Except ReadError (CharSet × Bool) :=
  let found (s : Option CharSet) (negated : Bool) : Except ReadError (CharSet × Bool) :=
    match s with
    | Option.some s => .ok (s, negated)
    | Option.none => .error .unknownProperty
  match splitName? ['!', '='] name with
  | Option.some (property, value) => found (Unicode.propertyValue? property value) true
  | Option.none =>
    match splitName? [':'] name with
    | Option.some (property, value) => found (Unicode.propertyValue? property value) false
    | Option.none =>
      match splitName? ['='] name with
      | Option.some (property, value) => found (Unicode.propertyValue? property value) false
      | Option.none => found (Unicode.property? name) false

/-- A property after `p` or `P`. -/
def readProperty (negated : Bool) (r : Reading) : Except ReadError (Atom × Reading) := do
  let r := r.next
  if !r.flags.unicode then .error .notText
  match r.rest with
  | [] => .error .unexpectedEnd
  | c :: _ =>
    let (name, r) ←
      if c == '\x7b' then readBraced r.rest.length r.next []
      else if c == '\\' then .error .unknownProperty
      else pure ([c], r.next)
    let (s, inverted) ← namedSet name
    let s ← r.flags.finish (negated != inverted) s
    return (.set s tableSize, r)

/-- A letter that stands for a set, in lower case for the set and in upper case for all else. -/
def classLetter? (f : Flags) (c : Char) : Option (CharSet × Nat) :=
  match c.toLower with
  | 'd' =>
    Option.some (if f.unicode then (Unicode.isDigit, 6000) else (Unicode.isAsciiDigit, asciiSize))
  | 's' => Option.some (if f.unicode then (Text.isBlank, wideSize) else (isAsciiSpace, asciiSize))
  | 'w' => Option.some (f.word, if f.unicode then tableSize else asciiSize)
  | _ => Option.none

def isConditionChar (c : Char) : Bool :=
  c.isAlpha || c == '-'

def readConditionName : Nat → Reading → List Char → List Char × Reading
  | 0, r, acc => (acc.reverse, r)
  | budget + 1, r, acc =>
    match r.rest with
    | c :: _ =>
      if isConditionChar c then readConditionName budget r.next (c :: acc) else (acc.reverse, r)
    | [] => (acc.reverse, r)

/-- The end of a word boundary, which a name in braces can restrict to one side.  Braces that do
not start with a name are left alone. -/
def readBoundary (r : Reading) : Except ReadError (Atom × Reading) := do
  let word := r.flags.word
  if r.rest.head? != Option.some '\x7b' then return (.condition (.wordBoundary word), r)
  let inside := r.next
  match inside.rest with
  | [] => .error .unexpectedEnd
  | c :: _ =>
    if !isConditionChar c then return (.condition (.wordBoundary word), r)
    let (name, r) := readConditionName inside.rest.length inside []
    if r.rest.head? != Option.some '\x7d' then .error .badEscape
    match String.ofList name with
    | "start" => return (.condition (.wordStart word), r.bump)
    | "end" => return (.condition (.wordEnd word), r.bump)
    | "start-half" => return (.condition (.wordStartHalf word), r.bump)
    | "end-half" => return (.condition (.wordEndHalf word), r.bump)
    | _ => .error .badEscape

/-- ASCII characters other than letters, digits and angle brackets stand for themselves. -/
def standsForItself (c : Char) : Bool :=
  c.toNat < 128 && !c.isAlphanum && c != '<' && c != '>'

/-- Read an escape from its backslash on. -/
def readEscape (r : Reading) : Except ReadError (Atom × Reading) := do
  let r := r.bump
  match r.rest with
  | [] => .error .unexpectedEnd
  | c :: _ =>
    let after := r.bump
    if c.isDigit then .error .backReference
    if standsForItself c then return (.char c, after)
    match classLetter? r.flags c with
    | Option.some (s, size) =>
      let negated := c.isUpper
      let s := if negated then s.others else s
      if !r.flags.unicode && negated then .error .notText
      return (.set s size, after)
    | Option.none =>
      match c with
      | 'x' => readCodePoint 2 r
      | 'u' => readCodePoint 4 r
      | 'U' => readCodePoint 8 r
      | 'p' => readProperty false r
      | 'P' => readProperty true r
      | 'a' => return (.char '\x07', after)
      | 'f' => return (.char '\x0c', after)
      | 't' => return (.char '\t', after)
      | 'n' => return (.char '\n', after)
      | 'r' => return (.char '\r', after)
      | 'v' => return (.char '\x0b', after)
      | 'A' => return (.condition .textStart, after)
      | 'z' => return (.condition .textEnd, after)
      | 'b' => readBoundary after
      | 'B' => return (.condition (.notWordBoundary r.flags.word), after)
      | '<' => return (.condition (.wordStart r.flags.word), after)
      | '>' => return (.condition (.wordEnd r.flags.word), after)
      | _ => .error .badEscape

end DocLint.Pattern
