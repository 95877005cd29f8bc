/-!
# UTF-8

Decoding of bytes.  The first fault of an invalid text is described by the number of valid bytes
before it and by the length of the invalid sequence; a text that ends inside a character is
incomplete.  The lenient decoder puts a replacement character for every invalid sequence.
-/
namespace DocLint.Text

/-- The first fault of a byte sequence that is not UTF-8. -/
inductive Utf8Error where
  | invalid (length index : Nat)
  | incomplete (index : Nat)
deriving DecidableEq, Repr

def Utf8Error.message : Utf8Error → String
  | .invalid length index =>
    "invalid utf-8 sequence of " ++ toString length ++ " bytes from index " ++ toString index
  | .incomplete index => "incomplete utf-8 byte sequence from index " ++ toString index

/-- What stands at the front of a byte sequence: a character, an invalid sequence of some length,
or the beginning of a character that is cut off. -/
inductive Utf8Head where
  | char (c : Char) (length : Nat)
  | invalid (length : Nat)
  | cut (length : Nat)

def payload (b : UInt8) : Nat := b.toNat % 64

def within (low high : Nat) (b : UInt8) : Bool :=
  low ≤ b.toNat && b.toNat ≤ high

def isContinuation (b : UInt8) : Bool := within 0x80 0xBF b

/-- The range of the second byte of a character of three or four bytes; it excludes surrogates,
overlong forms and code points beyond the last one. -/
def secondByteOk (first : Nat) (b : UInt8) : Bool :=
  if first == 0xE0 then within 0xA0 0xBF b
  else if first == 0xED then within 0x80 0x9F b
  else if first == 0xF0 then within 0x90 0xBF b
  else if first == 0xF4 then within 0x80 0x8F b
  else isContinuation b

/-- Look at the front of a byte sequence whose first byte is given. -/
def utf8Head (b : UInt8) (rest : List UInt8) : Utf8Head :=
  let n := b.toNat
  if n < 0x80 then .char (Char.ofNat n) 1
  else if 0xC2 ≤ n && n ≤ 0xDF then
    match rest with
    | [] => .cut 1
    | c :: _ =>
      if isContinuation c then .char (Char.ofNat (n % 32 * 64 + payload c)) 2 else .invalid 1
  else if 0xE0 ≤ n && n ≤ 0xEF then
    match rest with
    | [] => .cut 1
    | c :: rest =>
      if !secondByteOk n c then .invalid 1
      else
        match rest with
        | [] => .cut 2
        | d :: _ =>
          if isContinuation d then
            .char (Char.ofNat ((n % 16 * 64 + payload c) * 64 + payload d)) 3
          else .invalid 2
  else if 0xF0 ≤ n && n ≤ 0xF4 then
    match rest with
    | [] => .cut 1
    | c :: rest =>
      if !secondByteOk n c then .invalid 1
      else
        match rest with
        | [] => .cut 2
        | d :: rest =>
          if !isContinuation d then .invalid 2
          else
            match rest with
            | [] => .cut 3
            | e :: _ =>
              if isContinuation e then
                .char (Char.ofNat (((n % 8 * 64 + payload c) * 64 + payload d) * 64 + payload e)) 4
              else .invalid 3
  else .invalid 1

/-- Decode, stopping at the first fault.  `skip` bytes belong to the character before; `acc` holds
the characters so far, in reverse. -/
def decodeFrom : Nat → Nat → List Char → List UInt8 → Except Utf8Error (List Char)
  | _, _, acc, [] => .ok acc.reverse
  | index, skip + 1, acc, _ :: rest => decodeFrom (index + 1) skip acc rest
  | index, 0, acc, b :: rest =>
    match utf8Head b rest with
    | .char c length => decodeFrom (index + 1) (length - 1) (c :: acc) rest
    | .invalid length => .error (.invalid length index)
    | .cut _ => .error (.incomplete index)

def decodeUtf8 (bytes : List UInt8) : Except Utf8Error String :=
  (decodeFrom 0 0 [] bytes).map String.ofList

def lenientFrom : Nat → List Char → List UInt8 → List Char
  | _, acc, [] => acc.reverse
  | skip + 1, acc, _ :: rest => lenientFrom skip acc rest
  | 0, acc, b :: rest =>
    match utf8Head b rest with
    | .char c length => lenientFrom (length - 1) (c :: acc) rest
    | .invalid length => lenientFrom (length - 1) ('\ufffd' :: acc) rest
    | .cut length => lenientFrom (length - 1) ('\ufffd' :: acc) rest

/-- The text that bytes encode, with a replacement character for every invalid sequence. -/
def decodeLenient (bytes : List UInt8) : String :=
  String.ofList (lenientFrom 0 [] bytes)

def encodeUtf8 (s : String) : List UInt8 :=
  s.toUTF8.toList

end DocLint.Text
