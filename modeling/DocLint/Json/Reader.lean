import DocLint.Json.Basic
import DocLint.Decimal.Reading

/-!
# Reading JSON text

A strict reader: one value with blanks around it, nothing after it, containers nested less than
128 deep.  Objects keep their fields in the order of the text and with repeated keys, so that a
record can refuse a repeated field; `Json.sorted` turns the result into a plain value.  Integers
that fit 64 bits stay integers; all other numbers become floats, computed from the leading digits
that fit 64 bits and one power of ten.
-/
namespace DocLint.Json

inductive ReadFault where
  | endInList
  | endInObject
  | endInString
  | endInValue
  | noColon
  | noListEnd
  | noObjectEnd
  | badWord
  | noValue
  | badEscape
  | badNumber
  | numberOutOfRange
  | controlInString
  | keyNotString
  | loneSurrogate
  | halfSurrogatePair
  | trailingComma
  | trailing
  | tooDeep
deriving DecidableEq, Repr

def ReadFault.message : ReadFault → String
  | .endInList => "EOF while parsing a list"
  | .endInObject => "EOF while parsing an object"
  | .endInString => "EOF while parsing a string"
  | .endInValue => "EOF while parsing a value"
  | .noColon => "expected \x60:\x60"
  | .noListEnd => "expected \x60,\x60 or \x60]\x60"
  | .noObjectEnd => "expected \x60,\x60 or \x60\x7d\x60"
  | .badWord => "expected ident"
  | .noValue => "expected value"
  | .badEscape => "invalid escape"
  | .badNumber => "invalid number"
  | .numberOutOfRange => "number out of range"
  | .controlInString => "control character (\\u0000-\\u001F) found while parsing a string"
  | .keyNotString => "key must be a string"
  | .loneSurrogate => "lone leading surrogate in hex escape"
  | .halfSurrogatePair => "unexpected end of hex escape"
  | .trailingComma => "trailing comma"
  | .trailing => "trailing characters"
  | .tooDeep => "recursion limit exceeded"

/-- A fault and the number of bytes from where it was noticed to the end of the text. -/
structure Stop where
  fault : ReadFault
  left : Nat

def byteCount (s : List Char) : Nat :=
  s.foldr (fun c count => c.utf8Size + count) 0

/-- A fault noticed in front of what is left. -/
def stop {α : Type} (fault : ReadFault) (rest : List Char) : Except Stop α :=
  .error ⟨fault, byteCount rest⟩

/-- A fault of the byte that stands next, which counts as read unless the text has ended. -/
def stopAt {α : Type} (fault : ReadFault) (rest : List Char) : Except Stop α :=
  .error ⟨fault, byteCount rest - 1⟩

/-- Why a text is not JSON, and where: the number of the line and the bytes read in it. -/
structure ReadError where
  fault : ReadFault
  line : Nat
  column : Nat
deriving DecidableEq, Repr

def ReadError.message (e : ReadError) : String :=
  String.join [e.fault.message, " at line ", toString e.line, " column ", toString e.column]

/-- The line and the column reached after some bytes of a text. -/
def placeAfter : Nat → Nat → Nat → List Char → Nat × Nat
  | _, line, column, [] => (line, column)
  | bytes, line, column, c :: rest =>
    if bytes < c.utf8Size then (line, column + bytes)
    else if c == '\n' then placeAfter (bytes - 1) (line + 1) 0 rest
    else placeAfter (bytes - c.utf8Size) line (column + c.utf8Size) rest

def Stop.place (e : Stop) (text : List Char) : ReadError :=
  let (line, column) := placeAfter (byteCount text - e.left) 1 0 text
  ⟨e.fault, line, column⟩

def isSpace (c : Char) : Bool :=
  c == ' ' || c == '\n' || c == '\t' || c == '\r'

def skipSpace (s : List Char) : List Char :=
  s.dropWhile isSpace

/-- Scale a float by a power of ten in the way of a table of powers up to `1e308`: one
multiplication or division, repeated only below the table. -/
def scaleByTen : Nat → Float → Int → Except ReadFault Float
  | 0, x, _ => .ok x
  | budget + 1, x, exponent =>
    if exponent.natAbs ≤ 308 then
      let power := Float.ofScientific 1 false exponent.natAbs
      if 0 ≤ exponent then
        let y := x * power
        if y.isInf then .error .numberOutOfRange else .ok y
      else .ok (x / power)
    else if x == 0.0 then .ok x
    else if 0 ≤ exponent then .error .numberOutOfRange
    else scaleByTen budget (x / 1e308) (exponent + 308)

/-- The float of a significand of 64 bits and a power of ten; what is left of the text tells where
it ends. -/
def floatOf (negative : Bool) (significand : Nat) (exponent : Int) (rest : List Char) :
    Except Stop (Number × List Char) :=
  match scaleByTen 8 (Float.ofNat significand) exponent with
  | .ok x => .ok (.real (if negative then -x else x), rest)
  | .error fault => stop fault rest

def maxExponent : Nat := 0x7FFFFFFF

def clampExponent (e : Int) : Int :=
  if e > 0x7FFFFFFF then 0x7FFFFFFF else if e < -0x80000000 then -0x80000000 else e

/-- How many leading digits of a numeral keep its value within a bound. -/
def digitsWithin (bound : Nat) : Nat → Nat → List Char → Nat
  | _, count, [] => count
  | value, count, c :: rest =>
    let value := value * 10 + (Decimal.digitValue? c).getD 0
    if value > bound then count else digitsWithin bound value (count + 1) rest

def readExponent (negative : Bool) (significand : Nat) (start : Int) (s : List Char) :
    Except Stop (Number × List Char) := do
  let (down, s) :=
    match s with
    | '+' :: rest => (false, rest)
    | '-' :: rest => (true, rest)
    | _ => (false, s)
  let digits := s.takeWhile Char.isDigit
  let rest := s.dropWhile Char.isDigit
  if digits.isEmpty then
    if s.isEmpty then stop .endInValue s else stopAt .badNumber s
  else
    let exponent := Decimal.valueOfDigits digits
    if exponent > maxExponent then
      if significand != 0 && !down then
        stop .numberOutOfRange (s.drop (digitsWithin maxExponent 0 0 digits + 1))
      else .ok (.real (if negative then -0.0 else 0.0), rest)
    else
      let total := clampExponent (if down then start - exponent else start + exponent)
      floatOf negative significand total rest

/-- The digits of a numeral up to the last one that keeps the value within 64 bits: the value and
how many digits were used. -/
def leadingDigits : Nat → Nat → List Char → Nat × Nat
  | value, count, [] => (value, count)
  | value, count, c :: rest =>
    match Decimal.digitValue? c with
    | some d =>
      if value * 10 + d > maxWord then (value, count)
      else leadingDigits (value * 10 + d) (count + 1) rest
    | none => (value, count)

def readFraction (negative : Bool) (significand : Nat) (exponent : Int) (s : List Char) :
    Except Stop (Number × List Char) := do
  let digits := s.takeWhile Char.isDigit
  let rest := s.dropWhile Char.isDigit
  if digits.isEmpty then
    if s.isEmpty then stop .endInValue s else stopAt .badNumber s
  else
    let (value, used) := leadingDigits significand 0 digits
    let exponent := exponent - used
    match rest with
    | 'e' :: rest => readExponent negative value exponent rest
    | 'E' :: rest => readExponent negative value exponent rest
    | _ => floatOf negative value exponent rest

def readNumber (negative : Bool) (s : List Char) : Except Stop (Number × List Char) := do
  let digits := s.takeWhile Char.isDigit
  let rest := s.dropWhile Char.isDigit
  match digits with
  | [] => if s.isEmpty then stop .endInValue s else stopAt .badNumber s
  | '0' :: _ :: _ => stopAt .badNumber (s.drop 1)
  | _ =>
    let (value, used) := leadingDigits 0 0 digits
    let dropped : Int := (digits.length : Int) - used
    match rest with
    | '.' :: rest => readFraction negative value dropped rest
    | 'e' :: rest => readExponent negative value dropped rest
    | 'E' :: rest => readExponent negative value dropped rest
    | _ =>
      if dropped > 0 then floatOf negative value dropped rest
      else if !negative then .ok (.integer value, rest)
      else if value == 0 || value > minInt64.natAbs then .ok (.real (-(Float.ofNat value)), rest)
      else .ok (.integer (-(value : Int)), rest)

def hexDigit? (c : Char) : Option Nat :=
  if '0' ≤ c && c ≤ '9' then some (c.toNat - 48)
  else if 'a' ≤ c && c ≤ 'f' then some (c.toNat - 87)
  else if 'A' ≤ c && c ≤ 'F' then some (c.toNat - 55)
  else none

/-- Four hexadecimal digits; if there are at least four bytes, they count as read. -/
def readHex4 (s : List Char) : Except Stop (Nat × List Char) :=
  match s.take 4 |>.mapM hexDigit? with
  | some [a, b, c, d] => .ok (((a * 16 + b) * 16 + c) * 16 + d, s.drop 4)
  | _ =>
    if byteCount s < 4 then stop .endInString []
    else .error ⟨.badEscape, byteCount s - 4⟩

/-- The rest of a pair of escapes for one character, after the first of them. -/
def readLowHalf (high : Nat) : List Char → Except Stop (Char × List Char)
  | [] => stop .endInString []
  | '\\' :: [] => stop .endInString []
  | '\\' :: 'u' :: rest => do
    let (low, rest) ← readHex4 rest
    if 0xDC00 ≤ low && low ≤ 0xDFFF then
      .ok (Char.ofNat (0x10000 + (high - 0xD800) * 0x400 + (low - 0xDC00)), rest)
    else stop .loneSurrogate rest
  | '\\' :: rest => stopAt .halfSurrogatePair rest
  | rest => stopAt .halfSurrogatePair rest

/-- The character that one escape stands for, after its backslash. -/
def readEscape : List Char → Except Stop (Char × List Char)
  | [] => stop .endInString []
  | c :: rest =>
    match c with
    | '"' => .ok ('"', rest)
    | '\\' => .ok ('\\', rest)
    | '/' => .ok ('/', rest)
    | 'b' => .ok ('\x08', rest)
    | 'f' => .ok ('\x0c', rest)
    | 'n' => .ok ('\n', rest)
    | 'r' => .ok ('\r', rest)
    | 't' => .ok ('\t', rest)
    | 'u' => do
      let (code, rest) ← readHex4 rest
      if 0xDC00 ≤ code && code ≤ 0xDFFF then stop .loneSurrogate rest
      else if 0xD800 ≤ code && code ≤ 0xDBFF then readLowHalf code rest
      else .ok (Char.ofNat code, rest)
    | c => stopAt .badEscape (c :: rest)

/-- The rest of a string after its opening quote, with an explicit budget of characters; `acc` holds
what was read, in reverse. -/
def readString : Nat → List Char → List Char → Except Stop (String × List Char)
  | 0, _, rest => stop .endInString rest
  | _ + 1, _, [] => stop .endInString []
  | budget + 1, acc, c :: rest =>
    if c == '"' then .ok (String.ofList acc.reverse, rest)
    else if c == '\\' then
      match readEscape rest with
      | .error e => .error e
      | .ok (c, rest) => readString budget (c :: acc) rest
    else if c.toNat < 0x20 then stop .controlInString rest
    else readString budget (c :: acc) rest

def readWord (value : Json) : List Char → List Char → Except Stop (Json × List Char)
  | [], rest => .ok (value, rest)
  | _ :: _, [] => stop .endInValue []
  | expected :: word, c :: rest =>
    if c == expected then readWord value word rest else stopAt .badWord (c :: rest)

mutual
/-- A value.  The first argument is a budget of steps, the second how many containers may still
be opened. -/
def readValue (budget depth : Nat) (s : List Char) : Except Stop (Json × List Char) :=
  match budget with
  | 0 => stop .endInValue []
  | budget + 1 =>
    match skipSpace s with
    | [] => stop .endInValue []
    | 'n' :: rest => readWord .null "ull".toList rest
    | 't' :: rest => readWord (.bool true) "rue".toList rest
    | 'f' :: rest => readWord (.bool false) "alse".toList rest
    | '"' :: rest => do
      let (s, rest) ← readString budget [] rest
      .ok (.string s, rest)
    | '[' :: rest =>
      match depth with
      | 0 | 1 => stopAt .tooDeep ('[' :: rest)
      | depth + 1 =>
        match skipSpace rest with
        | [] => stop .endInList []
        | ']' :: rest => .ok (.array [], rest)
        | rest => do
          let (items, rest) ← readItems budget depth rest
          .ok (.array items, rest)
    | '\x7b' :: rest =>
      match depth with
      | 0 | 1 => stopAt .tooDeep ('\x7b' :: rest)
      | depth + 1 =>
        match skipSpace rest with
        | [] => stop .endInObject []
        | '\x7d' :: rest => .ok (.object [], rest)
        | rest => do
          let (fields, rest) ← readFields budget depth rest
          .ok (.object fields, rest)
    | '-' :: rest => do
      let (n, rest) ← readNumber true rest
      .ok (.number n, rest)
    | c :: rest =>
      if c.isDigit then do
        let (n, rest) ← readNumber false (c :: rest)
        .ok (.number n, rest)
      else stopAt .noValue (c :: rest)

def readItems (budget depth : Nat) (s : List Char) : Except Stop (List Json × List Char) :=
  match budget with
  | 0 => stop .endInValue []
  | budget + 1 => do
    let (item, rest) ← readValue budget depth s
    match skipSpace rest with
    | ',' :: rest =>
      match skipSpace rest with
      | ']' :: rest => stopAt .trailingComma (']' :: rest)
      | rest => do
        let (items, rest) ← readItems budget depth rest
        .ok (item :: items, rest)
    | ']' :: rest => .ok ([item], rest)
    | [] => stop .endInList []
    | rest => stopAt .noListEnd rest

def readFields (budget depth : Nat) (s : List Char) : Except Stop (Fields × List Char) :=
  match budget with
  | 0 => stop .endInValue []
  | budget + 1 =>
    match s with
    | '"' :: rest => do
      let (key, rest) ← readString budget [] rest
      match skipSpace rest with
      | ':' :: rest => do
        let (value, rest) ← readValue budget depth rest
        match skipSpace rest with
        | ',' :: rest =>
          match skipSpace rest with
          | '\x7d' :: rest => stopAt .trailingComma ('\x7d' :: rest)
          | rest => do
            let (fields, rest) ← readFields budget depth rest
            .ok ((key, value) :: fields, rest)
        | '\x7d' :: rest => .ok ([(key, value)], rest)
        | [] => stop .endInObject []
        | rest => stopAt .noObjectEnd rest
      | [] => stop .endInObject []
      | rest => stopAt .noColon rest
    | [] => stop .endInValue []
    | rest => stopAt .keyNotString rest
end

def readText (s : List Char) : Except Stop Json := do
  let (value, rest) ← readValue (2 * s.length + 2) 128 s
  match skipSpace rest with
  | [] => .ok value
  | rest => stopAt .trailing rest

/-- The value of a JSON text, with the fields of objects as they stand. -/
def read (text : String) : Except ReadError Json :=
  (readText text.toList).mapError fun e => e.place text.toList

end DocLint.Json
