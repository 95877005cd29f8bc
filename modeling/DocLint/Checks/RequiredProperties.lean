import DocLint.Rule

/-!
# The rule RequiredProperties

Checks that properties of the front matter exist and, where a list of allowed values is given, hold
one of them.
-/
namespace DocLint.Checks.RequiredProperties

def name : String := "RequiredProperties"

/-- A property that has to be there, the values it may have, and the status of the check if it is
missing or has another value. -/
structure Requirement where
  property : String
  allowedValues : Option (List Json) := none
  invalidStatus : Severity := .error

namespace Requirement

structure Draft where
  property : Option String := none
  allowedValues : Option (Option (List Json)) := none
  invalidStatus : Option (Option Severity) := none

def fields : List (FieldDecoder Draft) :=
  [ .ofSlot "property" [] true (·.property) (fun x d => { d with property := some x })
      Json.decodeString,
    .ofSlot "allowedValues" [] false (·.allowedValues) (fun x d => { d with allowedValues := some x })
      (Json.decodeOption (Json.decodeList .ok)),
    .ofSlot "invalidStatus" [] false (·.invalidStatus) (fun x d => { d with invalidStatus := some x })
      (Json.decodeOption Severity.decode) ]

def decodeDetailed : Decoder Requirement :=
  Json.decodeRecord "struct RequiredProperty" fields {} fun d => do
    let property ← requireField "property" d.property
    return ⟨property, d.allowedValues.getD none, (d.invalidStatus.getD none).getD .error⟩

/-- Read a requirement: a bare name, or the detailed form. -/
def decode : Decoder Requirement
  | .string property => .ok { property }
  | value =>
    match decodeDetailed value with
    | .ok requirement => .ok requirement
    | .error _ => .error (.noVariant "PropertySpec")

end Requirement

structure Draft where
  properties : Option (List Requirement) := none

def fields : List (FieldDecoder Draft) :=
  [ .ofSlot "properties" [] true (·.properties) (fun x _ => { properties := some x })
      (Json.decodeList Requirement.decode) ]

def decode : Decoder (List Requirement) :=
  Json.decodeRecord "struct RequiredPropertiesSettings" fields {} fun d =>
    requireField "properties" d.properties

structure Finding where
  property : String
  status : Severity
  message : String

/-- How a message shows the value of a property: a string as it is, all else as JSON. -/
def display : Json → String
  | .string s => s
  | value => value.compact

def Requirement.allows (r : Requirement) (value : Json) : Bool :=
  match r.allowedValues with
  | some allowed => allowed.any (·.agrees value)
  | none => true

def Requirement.check (properties : Fields) (r : Requirement) : Finding :=
  match Fields.get? properties r.property with
  | none => ⟨r.property, r.invalidStatus, "Missing property: " ++ r.property⟩
  | some value =>
    if r.allows value then ⟨r.property, .success, "Property " ++ r.property ++ " is valid"⟩
    else
      ⟨r.property, r.invalidStatus,
        "Invalid value: " ++ display value ++ " for: " ++ r.property ++ ", must be one of: " ++
          (Json.array (r.allowedValues.getD [])).compact⟩

/-- A finding as part of a result's detail, its fields sorted. -/
def Finding.encode (f : Finding) : Json :=
  .ofFields [("property", .string f.property), ("status", f.status.encode),
    ("message", .string f.message)]

def assess (document : Document) (requirements : List Requirement) : CheckResult :=
  let findings := requirements.map (Requirement.check document.properties)
  let status := Severity.fold (findings.map (·.status))
  let problems := findings.filter fun f => f.status != .success
  { status
    check := name
    file := document.file
    message :=
      if problems.isEmpty then
        "Checked: " ++ toString findings.length ++ " properties, result: " ++ status.name
      else "; ".intercalate (problems.map (·.message))
    detail := some (.array (findings.map Finding.encode)) }

def check (document : Document) (settings : Json) : Except RuleError CheckResult := do
  let requirements ← parseSettings decode settings
  return assess document requirements

def rule : Rule := ⟨name, fun _ document settings => .ofExcept (check document settings)⟩

end DocLint.Checks.RequiredProperties
