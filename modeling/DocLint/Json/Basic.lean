/-!
# JSON values

The dynamic values that properties, settings and details are made of.  Integers and reals are kept
apart, also when they are numerically equal.  An object is a list of fields; it is *sorted* when its
keys are strictly increasing, and `Json.ofFields` sorts, keeping the last of several fields with
one key.
-/
namespace DocLint

/-- Numbers: integers, and floats that are not infinite or NaN. -/
inductive Number where
  | integer (value : Int)
  | real (value : Float)

/-- A value; the fields of an object are in the order of the list. -/
inductive Json where
  | null
  | bool (value : Bool)
  | number (value : Number)
  | string (value : String)
  | array (items : List Json)
  | object (fields : List (String × Json))

/-- The fields of an object, looked up by key. -/
abbrev Fields := List (String × Json)

instance : Inhabited Json := ⟨.null⟩

/-- Numbers agree when both are integers or both are reals, and their values agree; the two zeros
agree. -/
def Number.agrees : Number → Number → Bool
  | .integer a, .integer b => a == b
  | .real a, .real b => a == b
  | _, _ => false

mutual
/-- Values agree when they have one shape and their parts agree. -/
def Json.agrees : Json → Json → Bool
  | .null, .null => true
  | .bool a, .bool b => a == b
  | .number a, .number b => a.agrees b
  | .string a, .string b => a == b
  | .array a, .array b => agreeItems a b
  | .object a, .object b => agreeFields a b
  | _, _ => false

def agreeItems : List Json → List Json → Bool
  | [], [] => true
  | a :: as, b :: bs => a.agrees b && agreeItems as bs
  | _, _ => false

def agreeFields : Fields → Fields → Bool
  | [], [] => true
  | (k, a) :: as, (l, b) :: bs => k == l && a.agrees b && agreeFields as bs
  | _, _ => false
end

namespace Fields

def get? (fields : Fields) (key : String) : Option Json :=
  (fields.find? fun field => field.1 == key).map (·.2)

/-- Put a field into a sorted list of fields, replacing the value of a key that is there. -/
def insert : Fields → String → Json → Fields
  | [], key, value => [(key, value)]
  | (k, v) :: rest, key, value =>
    if key < k then (key, value) :: (k, v) :: rest
    else if key == k then (key, value) :: rest
    else (k, v) :: insert rest key value

def Sorted (fields : Fields) : Prop :=
  fields.Pairwise fun a b => a.1 < b.1

end Fields

/-- The sorted object with the given fields; of several fields with one key the last counts. -/
def Json.ofFields (fields : Fields) : Json :=
  .object (fields.foldl (fun sorted field => Fields.insert sorted field.1 field.2) [])

mutual
/-- Sort the fields of every object in a value. -/
def Json.sorted : Json → Json
  | .array items => .array (sortItems items)
  | .object fields => .ofFields (sortFields fields)
  | value => value

def sortItems : List Json → List Json
  | [] => []
  | item :: rest => item.sorted :: sortItems rest

def sortFields : Fields → Fields
  | [] => []
  | (key, value) :: rest => (key, value.sorted) :: sortFields rest
end

def Json.nat (n : Nat) : Json :=
  .number (.integer n)

def Json.float (x : Float) : Json :=
  .number (.real x)

def maxWord : Nat := 0xFFFFFFFFFFFFFFFF

def minInt64 : Int := -0x8000000000000000

def maxInt64 : Int := 0x7FFFFFFFFFFFFFFF

def Json.int64? : Json → Option Int
  | .number (.integer n) => if minInt64 ≤ n && n ≤ maxInt64 then some n else none
  | _ => none

end DocLint
