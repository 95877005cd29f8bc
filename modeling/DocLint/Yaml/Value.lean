import DocLint.Yaml.Node
import DocLint.Json.Reader
import DocLint.Text.Blank
import DocLint.Unicode.CaseFold

/-!
# The value of a document

A plain scalar stands for nothing, a truth value, an integer, a float or, failing all that, for its
text; other scalars stand for their text.  The keys of a mapping are text, different from each
other; `<<` merges the entries of other mappings, which count only for keys that are missing.
-/
namespace DocLint.Yaml

def isNullText (s : String) : Bool :=
  s == "" || s == "~" || Unicode.eqIgnoringAsciiCase s.toList "null".toList

def boolOf? (s : List Char) : Option Bool :=
  let is (word : String) := Unicode.eqIgnoringAsciiCase s word.toList
  if is "y" || is "yes" || is "true" || is "on" then some true
  else if is "n" || is "no" || is "false" || is "off" then some false
  else none

def digitsValue? (base : Nat) (s : List Char) : Option Nat :=
  let digits := s.filter (· != '_')
  if digits.isEmpty then none
  else digits.foldl (fun value c => value.bind fun n =>
    match Unicode.hexValue? c with
    | some d => if d < base then some (n * base + d) else none
    | none => none) (some 0)

/-- The value of an integer without sign, which may be in base 16, 8 or 2. -/
def magnitude? : List Char → Option Nat
  | '0' :: 'x' :: rest => digitsValue? 16 rest
  | '0' :: 'X' :: rest => digitsValue? 16 rest
  | '0' :: 'o' :: rest => digitsValue? 8 rest
  | '0' :: 'O' :: rest => digitsValue? 8 rest
  | '0' :: 'b' :: rest => digitsValue? 2 rest
  | '0' :: 'B' :: rest => digitsValue? 2 rest
  | s => digitsValue? 10 s

/-- Integers of 64 bits, unsigned or signed. -/
def integerOf? (s : List Char) : Option Int :=
  match s with
  | '-' :: rest => do
    let n ← magnitude? rest
    if n ≤ minInt64.natAbs then some (-(n : Int)) else none
  | '+' :: rest => do
    let n ← magnitude? rest
    if n ≤ maxWord then some n else none
  | _ => do
    let n ← magnitude? s
    if n ≤ maxWord then some n else none

/-- The digits, sign and power of ten of a decimal numeral; the point and the exponent may be
missing, but not all digits. -/
def decimalOf? (s : List Char) : Option Float := do
  let (negative, s) := match s with
    | '-' :: rest => (true, rest)
    | '+' :: rest => (false, rest)
    | _ => (false, s)
  let whole := s.takeWhile Char.isDigit
  let s := s.dropWhile Char.isDigit
  let (fraction, s) := match s with
    | '.' :: rest => (rest.takeWhile Char.isDigit, rest.dropWhile Char.isDigit)
    | _ => ([], s)
  if whole.isEmpty && fraction.isEmpty then none
  let exponent ← match s with
    | [] => some (0 : Int)
    | e :: rest =>
      if e == 'e' || e == 'E' then
        let (down, digits) := match rest with
          | '-' :: digits => (true, digits)
          | '+' :: digits => (false, digits)
          | _ => (false, rest)
        if digits.isEmpty || !digits.all Char.isDigit then none
        else
          let n : Int := Decimal.valueOfDigits digits
          some (if down then -n else n)
      else none
  let digits := whole ++ fraction
  let x := Decimal.nearest (Decimal.valueOfDigits digits) (exponent - fraction.length)
  some (if negative then -x else x)

/-- Names of floats that are no number. -/
inductive Special where
  | infinity
  | minusInfinity
  | notANumber

def Special.text : Special → String
  | .infinity => ".inf"
  | .minusInfinity => "-.inf"
  | .notANumber => ".nan"

/-- Names with and without a point, in any case. -/
def specialOf? (s : List Char) : Option Special :=
  match String.ofList (s.map Char.toLower) with
  | ".nan" | "+.nan" | "-.nan" | "nan" | "+nan" | "-nan" => some .notANumber
  | ".inf" | "+.inf" | "inf" | "+inf" | "infinity" | "+infinity" => some .infinity
  | "-.inf" | "-inf" | "-infinity" => some .minusInfinity
  | _ => none

def valueOfFloat (x : Float) : Json :=
  if x.isNaN then .string Special.notANumber.text
  else if x.isInf then
    .string (if x < 0.0 then Special.minusInfinity.text else Special.infinity.text)
  else .float x

def plainValue (s : String) : Json :=
  if isNullText s then .null
  else
    let t := Text.trim s.toList
    match boolOf? t with
    | some b => .bool b
    | none =>
      match integerOf? t with
      | some n => .number (.integer n)
      | none =>
        match specialOf? t with
        | some special => .string special.text
        | none =>
          match decimalOf? t with
          | some x => valueOfFloat x
          | none => .string s

def textOf (tag : Tag) (s : String) : Except Fault String :=
  match tag with
  | .none | .text | .unspecific | .other => .ok s
  | .integer | .float | .bool | .null | .binary => .error .tagMismatch

def scalarValue (tag : Tag) (style : ScalarStyle) (s : String) : Except Fault Json :=
  match tag, style with
  | .null, _ => .ok .null
  | .text, _ => .ok (.string s)
  | .binary, _ => .error .tagMismatch
  | _, .plain => .ok (plainValue s)
  | _, _ => (textOf tag s).map Json.string

namespace Node

def isNull : Node → Bool
  | scalar tag style s => tag == .null || (style == .plain && tag != .text && isNullText s)
  | _ => false

def keyText : Node → Except Fault String
  | scalar tag style s =>
    if (scalar tag style s).isNull then .error .keyNotText else textOf tag s
  | _ => .error .keyNotText

def isMergeKey : Node → Bool
  | scalar .none .plain s => s == "<<"
  | _ => false

/-- The entries of a mapping that are its own; no two have one key. -/
def ownEntries : List (Node × Node) → List (String × Node) → Except Fault (List (String × Node))
  | [], known => .ok known.reverse
  | (key, value) :: rest, known =>
    if key.isMergeKey then ownEntries rest known
    else do
      let text ← key.keyText
      if known.any fun e => e.1 == text then .error .duplicateKey
      ownEntries rest ((text, value) :: known)

def addMissing (entries : List (String × Node)) : List (String × Node) → List (String × Node)
  | [] => entries
  | e :: rest =>
    if entries.any fun known => known.1 == e.1 then addMissing entries rest
    else addMissing (entries ++ [e]) rest

mutual
/-- The entries of a node that is merged into a mapping: those of a mapping, or of a list of
mappings, of which the earlier ones count first. -/
def mergedEntries : Node → Except Fault (List (String × Node))
  | mapping entries => do
    let own ← ownEntries entries []
    let merged ← mergesOf entries
    return addMissing own merged
  | sequence items => mergedItems items
  | node => if node.isNull then .ok [] else .error .badMerge

def mergedItems : List Node → Except Fault (List (String × Node))
  | [] => .ok []
  | item :: rest => do
    let first ← mergedEntries item
    let others ← mergedItems rest
    return addMissing first others

/-- The entries that the merge keys of a mapping ask for. -/
def mergesOf : List (Node × Node) → Except Fault (List (String × Node))
  | [] => .ok []
  | (key, value) :: rest => do
    let first ← if key.isMergeKey then mergedEntries value else pure []
    let others ← mergesOf rest
    return addMissing first others
end

/-- All entries of a mapping, merged ones included. -/
def fields (entries : List (Node × Node)) : Except Fault (List (String × Node)) :=
  mergedEntries (mapping entries)

def maxDepth : Nat := 2000

mutual
/-- The value of a node, with an explicit budget of levels. -/
def valueWithin : Nat → Node → Except Fault Json
  | 0, _ => .error .tooDeep
  | _ + 1, scalar tag style s => scalarValue tag style s
  | budget + 1, sequence items => (valuesWithin budget items).map Json.array
  | budget + 1, mapping entries => do
    let fields ← Node.fields entries
    (fieldsWithin budget fields).map Json.ofFields
termination_by budget _ => (budget, 0)

def valuesWithin (budget : Nat) : List Node → Except Fault (List Json)
  | [] => .ok []
  | item :: rest => do
    let value ← valueWithin budget item
    let values ← valuesWithin budget rest
    return value :: values
termination_by items => (budget, items.length + 1)

def fieldsWithin (budget : Nat) : List (String × Node) → Except Fault Fields
  | [] => .ok []
  | (key, node) :: rest => do
    let value ← valueWithin budget node
    let values ← fieldsWithin budget rest
    return (key, value) :: values
termination_by entries => (budget, entries.length + 1)
end

def value (node : Node) : Except Fault Json :=
  node.valueWithin maxDepth

end Node

/-- The document of a text; a byte order mark at the start does not count. -/
def readNodeOf (text : String) : Except Fault Node :=
  let chars := match text.toList with
    | '\ufeff' :: rest => rest
    | all => all
  Node.ofTokens (tokensOf chars)

/-- The value of the only document of a text. -/
def read (text : String) : Except Fault Json := do
  (← readNodeOf text).value

end DocLint.Yaml
