import DocLint.Pattern.Matching

/-!
# Occurrence

Whether a pattern occurs in a text does not depend on preferences or groups, so it is decided with
sets of sites: a pattern sends the set of sites at which it may start to the set of sites at which
it may end.  Sets are lists sorted by offset without repetitions; no set has more members than the
text has positions, so the work is polynomial for every pattern.
-/
namespace DocLint.Pattern

def mergeSites : List Site → List Site → List Site
  | [], ts => ts
  | s :: ss, ts => insertRun s ss ts
where
  /-- Merge `s :: ss` with a sorted list. -/
  insertRun (s : Site) (ss : List Site) : List Site → List Site
    | [] => s :: ss
    | t :: ts =>
      if s.offset < t.offset then s :: mergeSites ss (t :: ts)
      else if t.offset < s.offset then t :: insertRun s ss ts
      else s :: mergeSites ss ts

/-- The members of a sorted list that another one lacks. -/
def newSites (known fresh : List Site) : List Site :=
  fresh.filter fun s => !known.any fun k => k.offset == s.offset

/-- Add all sites that further rounds reach, at most `most` rounds and at most one for each element
of `budget`. -/
def closure (step : List Site → List Site) :
    List Char → Option Nat → List Site → List Site → List Site
  | [], _, known, _ => known
  | _ :: budget, most, known, frontier =>
    if most == Option.some 0 then known
    else
      let fresh := newSites known (step frontier)
      if fresh.isEmpty then known
      else closure step budget (most.map (· - 1)) (mergeSites known fresh) fresh

/-- A fixed number of rounds on a set of sites, given up once the set is empty. -/
def roundsOn (step : List Site → List Site) : Nat → List Site → List Site
  | 0, sites => sites
  | n + 1, sites => if sites.isEmpty then [] else roundsOn step n (step sites)

def stepOver (set : CharSet) (sites : List Site) : List Site :=
  sites.filterMap fun s =>
    match s.rest with
    | [] => none
    | c :: rest => if set c then Option.some (s.after c rest) else none

/-- The sites that a repetition reaches. -/
def repeatOn (step : List Site → List Site) (least : Nat) (most : Option Nat)
    (sites : List Site) : List Site :=
  let reached := roundsOn step least sites
  match reached with
  | [] => []
  | s :: _ => closure step s.rest (most.map (· - least)) reached reached

/-- The sites at which the pattern may end if it may start at the given ones. -/
def image : Pattern → List Site → List Site
  | empty, sites => sites
  | oneOf set, sites => stepOver set sites
  | anchor condition, sites => sites.filter fun s => condition.holds s.before s.rest.head?
  | run set least most _, sites => repeatOn (stepOver set) least most sites
  | seq first second, sites => second.image (first.image sites)
  | alt preferred other, sites => mergeSites (preferred.image sites) (other.image sites)
  | times body least most _, sites => repeatOn body.image least most sites
  | group _ body, sites => body.image sites

def sitesFrom (s : Site) : List Char → List Site
  | [] => [s]
  | c :: rest => s :: sitesFrom (s.after c rest) rest

def occursIn (p : Pattern) (text : List Char) : Bool :=
  !(p.image (sitesFrom (.first text) text)).isEmpty

end DocLint.Pattern
