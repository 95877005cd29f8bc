import DocLint.Pattern.Basic

/-!
# Matching

A pattern sends a cursor to the list of cursors at which a match may end, in order of preference;
the first one is the match.  From this follow searching for the leftmost match, listing the matches
of a text, and replacing them by what their groups hold.  Every round of a repetition has to
consume something, so the rest of the text is budget enough for the rounds.
-/
namespace DocLint

def byteLength (s : List Char) : Nat :=
  s.foldl (fun n c => n + c.utf8Size) 0

/-- The characters in the first `n` bytes. -/
def takeBytes (n : Nat) : List Char → List Char
  | [] => []
  | c :: rest => if n < c.utf8Size then [] else c :: takeBytes (n - c.utf8Size) rest

/-- A position in a text: the character before it, the text after it and its byte offset. -/
structure Site where
  before : Option Char
  rest : List Char
  offset : Nat

namespace Site

def first (text : List Char) : Site := ⟨none, text, 0⟩

def after (s : Site) (c : Char) (rest : List Char) : Site :=
  ⟨some c, rest, s.offset + c.utf8Size⟩

def textTo (s t : Site) : List Char :=
  takeBytes (t.offset - s.offset) s.rest

end Site

/-- A part of a text, between two sites. -/
structure Capture where
  start : Site
  stop : Site

namespace Capture

def text (c : Capture) : List Char := c.start.textTo c.stop

def length (c : Capture) : Nat := c.stop.offset - c.start.offset

end Capture

/-- A site together with what the groups hold so far, the latest first. -/
structure Cursor extends Site where
  groups : List (Nat × Capture)

namespace Cursor

def ofSite (s : Site) : Cursor := ⟨s, []⟩

def after (c : Cursor) (x : Char) (rest : List Char) : Cursor :=
  { c with toSite := c.toSite.after x rest }

/-- Remember the text from a cursor on under a group's number. -/
def remember (c : Cursor) (index : Nat) (d : Cursor) : Cursor :=
  { d with groups := (index, ⟨c.toSite, d.toSite⟩) :: d.groups }

end Cursor

namespace Pattern

/-- The sites along a run of characters of a set, the farthest first; `most` bounds the run, `seen`
holds the sites passed so far. -/
def runSites (set : CharSet) : Option Nat → Site → List Char → List Site → List Site
  | _, s, [], seen => s :: seen
  | most, s, c :: rest, seen =>
    if set c && most != Option.some 0 then
      runSites set (most.map (· - 1)) (s.after c rest) rest (s :: seen)
    else s :: seen

/-- The cursors at which a run may end. -/
def runEnds (set : CharSet) (least : Nat) (most : Option Nat) (greedy : Bool) (c : Cursor) :
    List Cursor :=
  let sites := runSites set most c.toSite c.rest []
  let long := sites.take (sites.length - least)
  let ordered := if greedy then long else long.reverse
  ordered.map fun s => { c with toSite := s }

def rounds (step : Cursor → List Cursor) : Nat → Cursor → List Cursor
  | 0, c => [c]
  | n + 1, c => (step c).flatMap (rounds step n)

/-- Further rounds, at most `most` and at most one for each element of `budget`. -/
def moreRounds (step : Cursor → List Cursor) (greedy : Bool) :
    List Char → Option Nat → Cursor → List Cursor
  | [], _, c => [c]
  | _ :: budget, most, c =>
    if most == Option.some 0 then [c]
    else
      let further := (step c).flatMap fun d =>
        if c.offset < d.offset then moreRounds step greedy budget (most.map (· - 1)) d else []
      if greedy then further ++ [c] else c :: further

/-- The cursors at which a match of the pattern may end, the preferred one first. -/
def ends : Pattern → Cursor → List Cursor
  | empty, c => [c]
  | oneOf set, c =>
    match c.rest with
    | [] => []
    | x :: rest => if set x then [c.after x rest] else []
  | anchor condition, c => if condition.holds c.before c.rest.head? then [c] else []
  | run set least most greedy, c => runEnds set least most greedy c
  | seq first second, c => (first.ends c).flatMap second.ends
  | alt preferred other, c => preferred.ends c ++ other.ends c
  | times body least most greedy, c =>
    (rounds body.ends least c).flatMap fun d =>
      moreRounds body.ends greedy d.rest (most.map (· - least)) d
  | group index body, c => (body.ends c).map (c.remember index)

structure Match where
  whole : Capture
  groups : List (Nat × Capture)

def Match.group? (m : Match) (index : Nat) : Option Capture :=
  (m.groups.find? fun g => g.1 == index).map (·.2)

def matchAt? (p : Pattern) (s : Site) : Option Match :=
  match p.ends (.ofSite s) with
  | [] => none
  | e :: _ => Option.some ⟨⟨s, e.toSite⟩, e.groups⟩

/-- The leftmost match from a site on, whose rest is the list. -/
def searchFrom (p : Pattern) (s : Site) : List Char → Option Match
  | [] => p.matchAt? s
  | c :: rest =>
    match p.matchAt? s with
    | Option.some m => Option.some m
    | none => p.searchFrom (s.after c rest) rest

def search (p : Pattern) (text : List Char) : Option Match :=
  p.searchFrom (.first text) text

def found (p : Pattern) (text : List Char) : Bool :=
  (p.search text).isSome

/-- The matches from a site on, left to right and without overlap; an empty match is followed by a
step of one character.  The list is a budget of matches. -/
def matchesFrom (p : Pattern) : List Char → Site → List Match
  | budget, s =>
    match p.searchFrom s s.rest with
    | none => []
    | Option.some m =>
      match budget with
      | [] => [m]
      | _ :: budget =>
        let next := m.whole.stop
        if m.whole.length == 0 then
          match next.rest with
          | [] => [m]
          | c :: rest => m :: matchesFrom p budget (next.after c rest)
        else m :: matchesFrom p budget next

def allMatches (p : Pattern) (text : List Char) : List Match :=
  p.matchesFrom text (.first text)

/-- What stands for a match: the texts of some of its groups, one after the other. -/
def Match.expand (m : Match) (template : List Nat) : List Char :=
  template.flatMap fun index => ((m.group? index).map (·.text)).getD []

/-- The text from a site on, with every listed match replaced. -/
def splice (template : List Nat) : Site → List Match → List Char
  | s, [] => s.rest
  | s, m :: ms =>
    s.textTo m.whole.start ++ m.expand template ++ splice template m.whole.stop ms

def replaceAll (p : Pattern) (template : List Nat) (text : List Char) : List Char :=
  splice template (.first text) (p.allMatches text)

def removeFirst (p : Pattern) (text : List Char) : List Char :=
  splice [] (.first text) (p.search text).toList

end Pattern
end DocLint
