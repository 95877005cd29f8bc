import DocLint.Json.Basic
import DocLint.Text.Lines

/-!
# Front matter

A text may start with a header of properties, closed by a line of dashes.  Splitting finds the
header without looking at what it says; whether the header is one is decided by the reader of
headers, which is a parameter.  Only a mapping or nothing at all makes a header: a scalar or a
sequence above a line of dashes is prose.
-/
namespace DocLint.FrontMatter

/-- Whether a line holds dashes only, apart from blanks around them. -/
def isDashLine (line : List Char) : Bool :=
  let trimmed := Text.trim line
  !trimmed.isEmpty && trimmed.all (· == '-')

def isLineBreak (c : Char) : Bool := c == '\r' || c == '\n'

/-- Remove a first line `---` together with the line breaks after it. -/
def stripMarker (content : List Char) : List Char :=
  match content with
  | '-' :: '-' :: '-' :: rest =>
    let tail := rest.dropWhile fun c => !isLineBreak c
    let blanks := rest.takeWhile fun c => !isLineBreak c
    if !tail.isEmpty && Text.isBlankText blanks then tail.dropWhile isLineBreak else content
  | _ => content

/-- A header and the body after the line of dashes that closes it. -/
structure Parts where
  header : List Char
  body : List Char

/-- Cut a text at its first line of dashes, which belongs to neither part. -/
def cut? (content : List Char) : Option Parts :=
  let lines := Text.splitAfter (· == '\n') content
  match lines.dropWhile fun line => !isDashLine line with
  | [] => none
  | _ :: body =>
    some ⟨(lines.takeWhile fun line => !isDashLine line).flatten, body.flatten⟩

/-- The properties of a text and its body.  `read` reads a header. -/
def split {ε : Type} (read : String → Except ε Json) (content : List Char) :
    Except ε (Fields × List Char) :=
  let content := stripMarker content
  match cut? content with
  | none => .ok ([], content)
  | some parts =>
    if Text.isBlankText parts.header then .ok ([], parts.body)
    else
      match read (String.ofList parts.header) with
      | .error e => .error e
      | .ok (.object properties) => .ok (properties, parts.body)
      | .ok .null => .ok ([], parts.body)
      | .ok _ => .ok ([], content)

end DocLint.FrontMatter
