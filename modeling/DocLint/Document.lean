import DocLint.FileTree.Basic
import DocLint.FrontMatter
import DocLint.Markdown.Rendering

/-!
# Documents

A document is what a check sees of a file: its path, the properties of its front matter, its
markdown body, the body as plain text and the lines of that text that are not blank.
-/
namespace DocLint

structure Document where
  file : String
  properties : Fields
  markdown : String
  text : String
  lines : List String

instance : Inhabited Document := ⟨⟨"", [], "", "", []⟩⟩

/-- Why a file is no document. -/
inductive LoadError where
  | io (error : IoError)
  | invalidEncoding
  | frontMatter (reason : String)
deriving DecidableEq, Repr

def LoadError.message : LoadError → String
  | .io error => error.message
  | .invalidEncoding => "file is not valid UTF-8"
  | .frontMatter reason => "malformed front-matter: " ++ reason

namespace Document

def ofParts (file : String) (properties : Fields) (markdown : String) : Document :=
  let text := Markdown.toPlainText markdown
  ⟨file, properties, markdown, text, Markdown.linesOfText text⟩

/-- The document that a text holds.  `read` reads front matter and says why it cannot. -/
def parse (read : String → Except String Json) (file content : String) :
    Except LoadError Document :=
  match FrontMatter.split read content.toList with
  | .error reason => .error (.frontMatter reason)
  | .ok (properties, body) => .ok (ofParts file properties (String.ofList body))

/-- The document at a path of a file tree. -/
def load (read : String → Except String Json) (tree : FileTree) (file : String) :
    Except LoadError Document := do
  let bytes ← (tree.readBytes file).mapError LoadError.io
  match Text.decodeUtf8 bytes with
  | .error _ => .error .invalidEncoding
  | .ok content => parse read file content

def property? (d : Document) (name : String) : Option Json :=
  Fields.get? d.properties name

/-- The fields of a document, in the order in which they are written. -/
def encode (d : Document) : Json :=
  .object [("file", .string d.file), ("properties", .object d.properties),
    ("markdown", .string d.markdown), ("text", .string d.text),
    ("lines", .array (d.lines.map Json.string))]

end Document
end DocLint
