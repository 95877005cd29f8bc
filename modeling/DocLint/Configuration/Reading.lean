import DocLint.Configuration
import DocLint.Json.Reader
import DocLint.Yaml.Shape

/-!
# Configurations as text

A configuration is written in JSON or in YAML.  In JSON a repeated field is refused because the
reader keeps repeated fields; in YAML the shape of a configuration says where text is expected.
-/
namespace DocLint

/-- Why a text is no configuration. -/
inductive ConfigFault where
  | json (error : Json.ReadError)
  | yaml (fault : Yaml.Fault)
  | content (error : DecodeError)

def ConfigFault.message : ConfigFault → String
  | .json error => error.message
  | .yaml fault => fault.message
  | .content error => error.message

namespace Configuration

def optionsShape : Yaml.Shape :=
  .record [([includeName, "includes"], .optional .text),
    ([excludeName, "excludes"], .optional .text), (["branch"], .optional .text),
    (["remote"], .optional .text)]

def checkShape : Yaml.Shape :=
  .record [(["name"], .text), ([includeName, "includes"], .optional .text),
    ([excludeName, "excludes"], .optional .text), (["settings"], .optional .value)]

def shape : Yaml.Shape :=
  .record [(["mode"], .choice), (["modeConfig"], optionsShape), (["baseDirectory"], .text),
    (["checks"], .list checkShape)]

def ofJson (text : String) : Except ConfigFault Configuration := do
  let value ← (Json.read text).mapError ConfigFault.json
  (decode value).mapError ConfigFault.content

def ofYaml (text : String) : Except ConfigFault Configuration := do
  let value ← (Yaml.readShaped shape text).mapError ConfigFault.yaml
  (decode value).mapError ConfigFault.content

end Configuration
end DocLint
