/-!
# Tables of code points

A property of characters that Unicode defines by data is kept as a sorted array of closed ranges,
written as text: hexadecimal code points separated by blanks, a range as `A-B`.  The text is read
once; looking a character up is a binary search.  Nothing here says which characters a table
holds.
-/
namespace DocLint.Unicode

def hexValue? (c : Char) : Option Nat :=
  if '0' ≤ c && c ≤ '9' then some (c.toNat - 48)
  else if 'A' ≤ c && c ≤ 'F' then some (c.toNat - 55)
  else if 'a' ≤ c && c ≤ 'f' then some (c.toNat - 87)
  else none

/-- What has been read of a list of classes: the finished ones, the one at hand and the number at
hand, the last two in reverse. -/
structure ClassReading where
  done : List (List Nat) := []
  members : List Nat := []
  number : Option Nat := none

def ClassReading.endNumber (r : ClassReading) : ClassReading :=
  match r.number with
  | some n => { r with members := n :: r.members, number := none }
  | none => r

def ClassReading.endClass (r : ClassReading) : ClassReading :=
  let r := r.endNumber
  if r.members.isEmpty then r
  else { r with done := r.members.reverse :: r.done, members := [] }

def ClassReading.step (r : ClassReading) (c : Char) : ClassReading :=
  match hexValue? c with
  | some d => { r with number := some (r.number.getD 0 * 16 + d) }
  | none => if c == '-' then r.endNumber else r.endClass

def readClasses (text : String) : List (List Nat) :=
  (text.toList.foldl ClassReading.step {}).endClass.done.reverse

/-- Binary search for the entry of a sorted array at which `order` answers `eq`, between `lo` and
`hi`, with an explicit budget of halvings. -/
def findEntry {α : Type} (entries : Array α) (order : α → Ordering) : Nat → Nat → Nat → Option α
  | 0, _, _ => none
  | budget + 1, lo, hi =>
    if lo < hi then
      let mid := (lo + hi) / 2
      match entries[mid]? with
      | none => none
      | some e =>
        match order e with
        | .lt => findEntry entries order budget lo mid
        | .eq => some e
        | .gt => findEntry entries order budget (mid + 1) hi
    else none

/-- A sorted array of closed ranges of code points. -/
structure RangeTable where
  ranges : Array (Nat × Nat)

def RangeTable.ofText (text : String) : RangeTable :=
  let range : List Nat → Option (Nat × Nat)
    | [a] => some (a, a)
    | [a, b] => some (a, b)
    | _ => none
  ⟨((readClasses text).filterMap range).toArray⟩

/-- Where a code point lies with respect to a range. -/
def placeInRange (n : Nat) (range : Nat × Nat) : Ordering :=
  if n < range.1 then .lt else if range.2 < n then .gt else .eq

def RangeTable.contains (t : RangeTable) (c : Char) : Bool :=
  (findEntry t.ranges (placeInRange c.toNat) t.ranges.size 0 t.ranges.size).isSome

end DocLint.Unicode
