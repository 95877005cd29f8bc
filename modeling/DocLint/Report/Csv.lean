import DocLint.Report
import DocLint.Json.Writer

/-!
# Reports as CSV

One record for each result, below a header.  Fields are separated by commas; a field with a comma,
a quote or a line break stands between quotes, and quotes inside it are written twice.
-/
namespace DocLint.Csv

def needsQuotes (field : List Char) : Bool :=
  field.any fun c => c == ',' || c == '"' || c == '\n' || c == '\r'

def writeField (field : String) : String :=
  let chars := field.toList
  if needsQuotes chars then
    String.ofList ('"' :: chars.flatMap (fun c => if c == '"' then ['"', '"'] else [c]) ++ ['"'])
  else field

/-- A record on a line.  A record that would be an empty line is a pair of quotes. -/
def writeRecord (fields : List String) : String :=
  (match fields with
  | [""] => "\"\""
  | _ => ",".intercalate (fields.map writeField)) ++ "\n"

def header : List String := ["status", "check", "file", "message", "detail"]

def itemText : Json → String
  | .string s => s
  | value => value.compact

/-- A detail as one field: text as it is, the items of a list one after the other, and anything
else as JSON. -/
def detailText : Option Json → String
  | none => ""
  | some .null => ""
  | some (.string s) => s
  | some (.array items) => "; ".intercalate (items.map itemText)
  | some value => value.compact

def record (r : CheckResult) : List String :=
  [r.status.name, r.check, Path.shown r.file, r.message, detailText r.detail]

def write (report : Report) : String :=
  String.join ((header :: report.checks.map record).map writeRecord)

end DocLint.Csv
