import DocLint.Yaml.Value

/-!
# Reading with an expected shape

Where it is known what a node stands for, a plain scalar need not be resolved: where text is
expected, `5` is text.  A shape says what is expected; reading along a shape yields the JSON value
that a decoder can take from there.  Entries of a record that the shape does not name are left out.
-/
namespace DocLint.Yaml

inductive Shape where
  /-- Any value, resolved as usual. -/
  | value
  | text
  /-- A name from a list, or a mapping from such a name to nothing. -/
  | choice
  | optional (inner : Shape)
  | list (item : Shape)
  /-- A mapping; every field has one or more names. -/
  | record (fields : List (List String × Shape))

namespace Node

def rawText : Node → Except Fault Json
  | scalar tag _ s => (textOf tag s).map Json.string
  | _ => .error .wrongShape

mutual
/-- The value of a node along a shape, with an explicit budget of levels. -/
def shapedWithin : Nat → Shape → Node → Except Fault Json
  | 0, _, _ => .error .tooDeep
  | _ + 1, .value, node => node.value
  | _ + 1, .text, node => if node.isNull then .error .wrongShape else node.rawText
  | _ + 1, .choice, node =>
    match node with
    | mapping entries => do
      let fields ← Node.fields entries
      let values ← fields.mapM fun (name, content) => content.value.map fun v => (name, v)
      return .object values
    | node => node.rawText
  | budget + 1, .optional inner, node =>
    if node.isNull then .ok .null else shapedWithin budget inner node
  | budget + 1, .list item, node =>
    match node with
    | sequence items => (shapedItems budget item items).map Json.array
    | node => if node.isNull then .ok (.array []) else .error .wrongShape
  | budget + 1, .record fields, node =>
    match node with
    | mapping entries => do
      (shapedFields budget fields (← Node.fields entries)).map Json.object
    | node => if node.isNull then .ok (.object []) else .error .wrongShape
termination_by budget _ _ => (budget, 0)

def shapedItems (budget : Nat) (item : Shape) : List Node → Except Fault (List Json)
  | [] => .ok []
  | node :: rest => do
    let value ← shapedWithin budget item node
    return value :: (← shapedItems budget item rest)
termination_by items => (budget, items.length + 1)

def shapedFields (budget : Nat) (fields : List (List String × Shape)) :
    List (String × Node) → Except Fault Fields
  | [] => .ok []
  | (name, node) :: rest => do
    match fields.find? fun field => field.1.contains name with
    | none => shapedFields budget fields rest
    | some (_, shape) =>
      let value ← shapedWithin budget shape node
      return (name, value) :: (← shapedFields budget fields rest)
termination_by entries => (budget, entries.length + 1)
end

def shaped (shape : Shape) (node : Node) : Except Fault Json :=
  node.shapedWithin maxDepth shape

end Node

/-- The value of the only document of a text along a shape. -/
def readShaped (shape : Shape) (text : String) : Except Fault Json := do
  (← readNodeOf text).shaped shape

end DocLint.Yaml
