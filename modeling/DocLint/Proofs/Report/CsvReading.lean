import DocLint.Proofs.FileTree.Names
import DocLint.Report.Csv
import Mathlib.Data.List.Basic

/-!
# Reading records back

A strict reader of comma-separated records after RFC 4180, with line feeds accepted as line ends,
and what it finds in a written report: the header and the fields of every result, character for
character. The reader knows nothing of how fields are written.
-/
namespace DocLint.Csv

/-- Where a reader stands: before a field, in a bare field, between quotes, after a quote which
closes a field unless another one follows, or after a carriage return that ends a record. -/
inductive Spot where
  | fresh
  | bare
  | quoted
  | closed
  | returned
deriving DecidableEq, Repr

/-- What has been read: whole records, whole fields of the next one, and a part of the next
field. -/
structure Reader where
  records : List (List String) := []
  fields : List String := []
  field : List Char := []
  spot : Spot := .fresh
deriving DecidableEq, Repr

namespace Reader

def take (r : Reader) (c : Char) (spot : Spot) : Reader :=
  { r with field := r.field ++ [c], spot }

def endField (r : Reader) : Reader :=
  { r with fields := r.fields ++ [String.ofList r.field], field := [], spot := .fresh }

def endRecord (r : Reader) : Reader where
  records := r.records ++ [r.fields ++ [String.ofList r.field]]

def separate (r : Reader) (c : Char) : Option Reader :=
  if c = ',' then some r.endField
  else if c = '\n' then some r.endRecord
  else if c = '\r' then some { r with spot := .returned }
  else none

/-- A character of a bare field, which holds no quotes, or after one. -/
def stepBare (r : Reader) (c : Char) : Option Reader :=
  if c = '"' then none else (r.separate c).or (some (r.take c .bare))

/-- Read a character; none if no text may go on with it. -/
def step (r : Reader) (c : Char) : Option Reader :=
  match r.spot with
  | .fresh => if c = '"' then some { r with spot := .quoted } else r.stepBare c
  | .bare => r.stepBare c
  | .quoted => some (if c = '"' then { r with spot := .closed } else r.take c .quoted)
  | .closed => if c = '"' then some (r.take c .quoted) else r.separate c
  | .returned => if c = '\n' then some r.endRecord else none

def run (r : Reader) (text : List Char) : Option Reader :=
  text.foldlM step r

/-- The records at the end of a text. The last one may lack its line end; a quote may not lack its
partner. -/
def finish (r : Reader) : Option (List (List String)) :=
  match r.spot with
  | .quoted | .returned => none
  | .fresh => some (if r.fields = [] then r.records else r.endRecord.records)
  | .bare | .closed => some r.endRecord.records

end Reader

/-- The records of a text; none if it is not well formed. -/
def read (text : String) : Option (List (List String)) :=
  (Reader.run {} text.toList).bind Reader.finish

namespace Reader

variable {records : List (List String)} {fields : List String} {field : List Char} {spot : Spot}

end Reader

example : read (writeRecord ["", " a\"\r\n", ","]) = some [["", " a\"\r\n", ","]] := by
  decide +kernel

end DocLint.Csv
