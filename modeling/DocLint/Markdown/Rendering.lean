import DocLint.Markdown.Block
import DocLint.Markdown.Inline

/-!
# Rendering markdown to plain text

The lines of a markdown text are prose or belong to fenced blocks.  Fenced blocks contribute
nothing; every line of prose contributes exactly one line of plain text, which depends on that line
alone.
-/
namespace DocLint.Markdown

/-- The marker that opens or closes a fenced block. -/
structure Fence where
  mark : Char
  length : Nat
deriving DecidableEq, Repr

/-- The fence at the start of a line: three or more backticks or tildes after blanks. -/
def fence? (line : List Char) : Option Fence :=
  match Text.trimStart line with
  | [] => none
  | mark :: rest =>
    if mark == '`' || mark == '~' then
      let length := ((mark :: rest).takeWhile (· == mark)).length
      if 3 ≤ length then Option.some ⟨mark, length⟩ else none
    else none

/-- Whether a fence closes a block that another one opened. -/
def Fence.closes (closing opening : Fence) : Bool :=
  closing.mark == opening.mark && opening.length ≤ closing.length

def closesBlock (opening : Fence) (line : List Char) : Bool :=
  (fence? line).any (·.closes opening)

/-- The lines of prose among the given ones; the first argument is the fence of the block that the
lines start in, if they start in one. -/
def proseLines : Option Fence → List (List Char) → List (List Char)
  | _, [] => []
  | none, line :: rest =>
    match fence? line with
    | Option.some opening => proseLines (Option.some opening) rest
    | none => line :: proseLines none rest
  | Option.some opening, line :: rest =>
    if closesBlock opening line then proseLines none rest
    else proseLines (Option.some opening) rest

def renderLine (line : List Char) : List Char :=
  match reduceBlock line with
  | none => []
  | Option.some block => Text.trimEnd (reduceInline block)

def renderedLines (markdown : List Char) : List (List Char) :=
  (proseLines none (Text.lines markdown)).map renderLine

def toPlainText (markdown : String) : String :=
  String.ofList (Text.joinWith ['\n'] (renderedLines markdown.toList))

/-- The lines of a plain text that are not blank. -/
def linesOfText (text : String) : List String :=
  (Text.nonBlankLines text.toList).map String.ofList

end DocLint.Markdown
