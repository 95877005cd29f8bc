import DocLint.Text.Utf8

/-!
# Names of files

A name is a sequence of bytes that need not be a text. It is held as a text all the same: a byte
that is part of no character is spelled as NUL, which no name can hold, and a private character
that carries the byte. Paths made of such names keep all bytes. Where a text is asked for, they are
shown with a replacement character for every sequence of bytes that is none.
-/
namespace DocLint.Path

/-- What stands in front of a byte that is part of no character. -/
def mark : Char := '\x00'

/-- Whether a character after a mark carries a byte; the bytes of ASCII are characters. -/
def carriesByte (c : Char) : Bool := 0x10ff80 ≤ c.toNat

def carriedByte (c : Char) : UInt8 := (c.toNat % 256).toUInt8

/-- The bytes that characters spell. -/
def bytesOf : List Char → List UInt8
  | [] => []
  | [c] => String.utf8EncodeChar c
  | c :: d :: rest =>
    if c == mark && carriesByte d then carriedByte d :: bytesOf rest
    else String.utf8EncodeChar c ++ bytesOf (d :: rest)

def bytes (path : String) : List UInt8 := bytesOf path.toList

def hasMark : List Char → Bool
  | [] => false
  | [_] => false
  | c :: d :: rest => (c == mark && carriesByte d) || hasMark (d :: rest)

/-- Whether all bytes of a path are parts of characters. -/
def isText (path : String) : Bool := !hasMark path.toList

/-- The text as which a path is shown. -/
def shown (path : String) : String := Text.decodeLenient (bytes path)

end DocLint.Path
