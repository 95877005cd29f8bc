import DocLint.Json.Writer
import DocLint.Yaml.Value

/-!
# YAML text

A block layout with two blanks per level.  The items of a list stand under its key, indented; an
empty list or mapping leaves nothing after its key, and an empty mapping an empty line.  Text is
plain unless it could be taken for something else.
-/
namespace DocLint.Yaml

def isLeadingMark (c : Char) : Bool :=
  "-?:[]\x7b\x7d#&*!|>'\"%@\x60".toList.contains c

def isControl (c : Char) : Bool :=
  c.toNat < 0x20 || (0x7F ≤ c.toNat && c.toNat ≤ 0x9F)

def hasColonBlank : List Char → Bool
  | ':' :: ' ' :: _ => true
  | _ :: rest => hasColonBlank rest
  | [] => false

/-- Whether a plain text would be read as something else than text. -/
def isResolved (s : String) : Bool :=
  match plainValue s with
  | .string text => text != s || (specialOf? s.toList).isSome
  | _ => true

def isPlainValue (s : String) : Bool :=
  match s.toList with
  | [] => false
  | c :: rest =>
    !isResolved s && c != ' ' && !isLeadingMark c && !hasColonBlank (c :: rest) &&
      !(c :: rest).any fun c => isFlowMark c || c == '#' || isControl c

/-- Keys that are quoted in any case of their letters. -/
def reservedKeys : List String := ["~", "null", "true", "false"]

def isPlainKey (s : String) : Bool :=
  match s.toList with
  | [] => false
  | c :: rest =>
    !reservedKeys.contains (s.map Char.toLower) && c != ' ' && !isLeadingMark c &&
      !(c :: rest).any fun c => c == ':' || c == '#' || c == ',' || isControl c

def hexText (width n : Nat) : List Char :=
  let digits := (Nat.toDigits 16 n).map Char.toUpper
  List.replicate (width - digits.length) '0' ++ digits

def escapeChar (c : Char) : List Char :=
  match c with
  | '\\' => ['\\', '\\']
  | '"' => ['\\', '"']
  | '\x00' => ['\\', '0']
  | '\x07' => ['\\', 'a']
  | '\x08' => ['\\', 'b']
  | '\t' => ['\\', 't']
  | '\n' => ['\\', 'n']
  | '\x0b' => ['\\', 'v']
  | '\x0c' => ['\\', 'f']
  | '\r' => ['\\', 'r']
  | '\x1b' => ['\\', 'e']
  | '\ufeff' => ['\\', 'u', 'F', 'E', 'F', 'F']
  | '\u0085' => ['\\', 'N']
  | '\u2028' => ['\\', 'L']
  | '\u2029' => ['\\', 'P']
  | c => if isControl c then ['\\', 'x'] ++ hexText 2 c.toNat else [c]

def doubleQuoted (s : String) : String :=
  String.ofList ('"' :: s.toList.flatMap escapeChar ++ ['"'])

def valueText (s : String) : String :=
  if [".", "#", "-"].contains s then "'" ++ s ++ "'"
  else if isPlainValue s then s
  else doubleQuoted s

def keyTextOf (s : String) : String :=
  if isPlainKey s then s else doubleQuoted s

def indentation (level : Nat) : String :=
  String.ofList (List.replicate (2 * level) ' ')

/-- What stands between the colon of a field and its value. -/
def beforeField : Json → String
  | .array _ => "\n"
  | .object [] => "\n\n"
  | .object _ => "\n"
  | _ => " "

mutual
/-- The text of a value up to the end of its last line.  Its lines are indented to a level; `inline`
says that the first of them has begun. -/
def writeValue (level : Nat) (inline : Bool) : Json → String
  | .null => "null\n"
  | .bool true => "true\n"
  | .bool false => "false\n"
  | .number (.integer n) => integerText n ++ "\n"
  | .number (.real x) => Decimal.Layout.yaml.write x ++ "\n"
  | .string s => valueText s ++ "\n"
  | .array items => writeItems level inline items
  | .object fields => writeFields level inline fields

def writeItems (level : Nat) (inline : Bool) : List Json → String
  | [] => ""
  | item :: rest =>
    (if inline then "" else indentation level) ++ "- " ++ writeValue (level + 1) true item ++
      writeItems level false rest

def writeFields (level : Nat) (inline : Bool) : Fields → String
  | [] => ""
  | (key, value) :: rest =>
    (if inline then "" else indentation level) ++ keyTextOf key ++ ":" ++ beforeField value ++
      writeValue (level + 1) false value ++ writeFields level false rest
end

def write (value : Json) : String :=
  writeValue 0 false value

end DocLint.Yaml
