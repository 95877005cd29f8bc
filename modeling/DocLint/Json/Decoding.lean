import DocLint.Json.Writer
import DocLint.Text.Quoted

/-!
# Decoding JSON values

A decoder turns a JSON value into a value of a domain type or says why it cannot.  Records accept
an object, whose unknown keys are ignored, or an array of their fields in declared order; fields
are decoded in the order in which the value lists them, and the first fault is the one reported.
-/
namespace DocLint

/-- Why a value does not fit a type. -/
inductive DecodeError where
  | invalidType (found expected : String)
  | invalidValue (found expected : String)
  | invalidLength (length : Nat) (expected : String)
  | unknownVariant (name : String) (allowed : List String)
  | missingField (name : String)
  | duplicateField (name : String)
  | noVariant (type : String)
deriving DecidableEq, Repr

def oneOfText : List String → String
  | [] => "there are no variants"
  | [a] => "expected " ++ "`" ++ a ++ "`"
  | [a, b] => "expected " ++ "`" ++ a ++ "` or `" ++ b ++ "`"
  | names => "expected one of " ++ ", ".intercalate (names.map fun a => "`" ++ a ++ "`")

def DecodeError.message : DecodeError → String
  | .invalidType found expected => "invalid type: " ++ found ++ ", expected " ++ expected
  | .invalidValue found expected => "invalid value: " ++ found ++ ", expected " ++ expected
  | .invalidLength length expected =>
    "invalid length " ++ toString length ++ ", expected " ++ expected
  | .unknownVariant name allowed => "unknown variant `" ++ name ++ "`, " ++ oneOfText allowed
  | .missingField name => "missing field `" ++ name ++ "`"
  | .duplicateField name => "duplicate field `" ++ name ++ "`"
  | .noVariant type => "data did not match any variant of untagged enum " ++ type

abbrev Decoder (α : Type) := Json → Except DecodeError α

namespace Json

/-- How a message names a value that was not expected. -/
def described : Json → String
  | .null => "null"
  | .bool true => "boolean `true`"
  | .bool false => "boolean `false`"
  | .number (.integer n) => "integer `" ++ integerText n ++ "`"
  | .number (.real x) => "floating point `" ++ Decimal.Layout.json.write x ++ "`"
  | .string s => "string " ++ Text.quoted s
  | .array _ => "sequence"
  | .object _ => "map"

def refuse {α : Type} (value : Json) (expected : String) : Except DecodeError α :=
  .error (.invalidType value.described expected)

def decodeString : Decoder String
  | .string s => .ok s
  | value => value.refuse "a string"

/-- A string that names a file. -/
def decodePath : Decoder String
  | .string s => .ok s
  | value => value.refuse "path string"

def decodeBool : Decoder Bool
  | .bool b => .ok b
  | value => value.refuse "a boolean"

def decodeUnit : Decoder Unit
  | .null => .ok ()
  | value => value.refuse "unit"

/-- Integers between two bounds; reals are refused even if they are whole. -/
def decodeInteger (low high : Int) (expected : String) : Decoder Int
  | .number (.integer n) =>
    if low ≤ n && n ≤ high then .ok n
    else .error (.invalidValue (Json.number (.integer n)).described expected)
  | value => value.refuse expected

def decodeInt64 : Decoder Int :=
  decodeInteger minInt64 maxInt64 "i64"

def decodeCount : Decoder Nat := fun value =>
  (decodeInteger 0 maxWord "usize" value).map Int.toNat

def floatOfInt (n : Int) : Float :=
  if n < 0 then -(Float.ofNat n.natAbs) else Float.ofNat n.natAbs

/-- Numbers of either kind, as floats. -/
def decodeFloat : Decoder Float
  | .number (.integer n) => .ok (floatOfInt n)
  | .number (.real x) => .ok x
  | value => value.refuse "f64"

def decodeOption {α : Type} (decode : Decoder α) : Decoder (Option α)
  | .null => .ok none
  | value => (decode value).map some

def decodeList {α : Type} (decode : Decoder α) : Decoder (List α)
  | .array items => items.mapM decode
  | value => value.refuse "a sequence"

def decodeMap {α : Type} (decode : Decoder α) : Decoder (List (String × α))
  | .object fields => fields.mapM fun (key, value) => (decode value).map (key, ·)
  | value => value.refuse "a map"

/-- A choice among named constants: a string, or an object from one name to `null`. -/
def decodeChoice {α : Type} (choices : List (String × α)) : Decoder α := fun value =>
  let pick (name : String) : Except DecodeError α :=
    match choices.find? fun choice => choice.1 == name with
    | some (_, chosen) => .ok chosen
    | none => .error (.unknownVariant name (choices.map (·.1)))
  match value with
  | .string name => pick name
  | .object [(name, content)] => do
    let chosen ← pick name
    decodeUnit content
    return chosen
  | .object _ => .error (.invalidValue "map" "map with a single key")
  | value => value.refuse "string or map"

end Json

/-- A field of a record under construction: its names, whether an array of fields must list it, and
how its value enters the record. -/
structure FieldDecoder (σ : Type) where
  name : String
  aliases : List String
  required : Bool
  filled : σ → Bool
  decode : Json → σ → Except DecodeError σ

namespace FieldDecoder

/-- A field that one decoder reads into one slot of the record. -/
def ofSlot {σ α : Type} (name : String) (aliases : List String) (required : Bool)
    (slot : σ → Option α) (fill : α → σ → σ) (decode : Decoder α) : FieldDecoder σ :=
  { name, aliases, required
    filled := fun record => (slot record).isSome
    decode := fun value record => (decode value).map fun x => fill x record }

def accepts {σ : Type} (field : FieldDecoder σ) (key : String) : Bool :=
  field.name == key || field.aliases.contains key

def fromFields {σ : Type} (fields : List (FieldDecoder σ)) :
    Fields → σ → Except DecodeError σ
  | [], record => .ok record
  | (key, value) :: rest, record =>
    match fields.find? (·.accepts key) with
    | none => fromFields fields rest record
    | some field =>
      if field.filled record then .error (.duplicateField field.name)
      else do
        let record ← field.decode value record
        fromFields fields rest record

/-- How a message names a record by its number of fields. -/
def shape (label : String) (count : Nat) : String :=
  label ++ " with " ++ toString count ++ (if count == 1 then " element" else " elements")

/-- Decode an array of fields in declared order; `index` counts the fields before. -/
def fromItems {σ : Type} (expected : String) :
    List (FieldDecoder σ) → Nat → List Json → σ → Except DecodeError σ
  | [], _, _, record => .ok record
  | field :: fields, index, [], record =>
    if field.required then .error (.invalidLength index expected)
    else fromItems expected fields (index + 1) [] record
  | field :: fields, index, item :: items, record => do
    let record ← field.decode item record
    fromItems expected fields (index + 1) items record

end FieldDecoder

/-- Decode a record from an object or an array of its fields; `finish` supplies defaults and
complains about missing fields. -/
def Json.decodeRecord {σ α : Type} (label : String) (fields : List (FieldDecoder σ)) (empty : σ)
    (finish : σ → Except DecodeError α) : Decoder α
  | .object entries => do
    let record ← FieldDecoder.fromFields fields entries empty
    finish record
  | .array items => do
    let shape := FieldDecoder.shape label fields.length
    let record ← FieldDecoder.fromItems shape fields 0 items empty
    let result ← finish record
    if items.length > fields.length then
      .error (.invalidLength items.length "fewer elements in array")
    else .ok result
  | value => value.refuse label

def requireField {α : Type} (name : String) : Option α → Except DecodeError α
  | some value => .ok value
  | none => .error (.missingField name)

end DocLint
