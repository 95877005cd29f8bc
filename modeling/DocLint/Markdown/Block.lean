import DocLint.Pattern.Matching
import DocLint.Text.Lines

/-!
# Block markup of a line

What a line contributes to a document's text once its block markup is removed: nothing for a rule,
a table divider or a link definition; otherwise the line without quote markers, heading marks and
list bullets, with the cells of a table row joined by blanks.
-/
namespace DocLint.Markdown

open Pattern CharSet

def blanks : Pattern := many Text.isBlank

/-- Three or more of one character with blanks after each, to the end of the line. -/
def ruleOf (c : Char) : Pattern :=
  times (sequence [char c, blanks]) 3 none true

/-- A line of three or more dashes, stars or underscores, or of equals signs. -/
def thematicBreak : Pattern :=
  sequence [start, blanks,
    choice [ruleOf '-', ruleOf '*', ruleOf '_', sequence [some (one '='), blanks]], stop]

def columnRule : Pattern :=
  sequence [optional (one ':'), some (one '-'), optional (one ':'), blanks]

/-- The line between the head and the body of a table. -/
def tableDivider : Pattern :=
  sequence [start, blanks, optional (one '|'), blanks, columnRule,
    star (sequence [char '|', blanks, columnRule]), optional (one '|'), blanks, stop]

/-- `[label]: target` at the start of a line. -/
def linkDefinition : Pattern :=
  sequence [start, run Text.isBlank 0 (Option.some 3) true, char '[', some (except [']']),
    char ']', char ':', blanks, some (others Text.isBlank)]

def quoteMarkers : Pattern :=
  sequence [start, blanks, plus (sequence [char '>', optional Text.isBlank])]

def headingMark : Pattern :=
  sequence [start, run Text.isBlank 0 (Option.some 3) true, run (one '#') 1 (Option.some 6) true,
    some Text.isBlank]

def headingClose : Pattern :=
  sequence [some Text.isBlank, some (one '#'), blanks, stop]

def listMarker : Pattern :=
  sequence [start, blanks,
    alt (oneOf (ofList ['-', '*', '+']))
      (sequence [some Unicode.isDigit, oneOf (ofList ['.', ')'])]),
    some Text.isBlank]

/-- Lines that contribute no text. -/
def isStructural (line : List Char) : Bool :=
  thematicBreak.found line || tableDivider.found line || linkDefinition.found line

def removeHeading (line : List Char) : List Char :=
  if headingMark.found line then headingClose.removeFirst (headingMark.removeFirst line) else line

/-- Replace the bars between the cells of a table row by blanks. -/
def joinCells (line : List Char) : List Char :=
  if line.contains '|' then
    let cells := (Text.splitOn (· == '|') line).map Text.trim
    Text.joinWith [' '] (cells.filter fun cell => !cell.isEmpty)
  else line

/-- The text of a line without its block markup; nothing if the line contributes no text. -/
def reduceBlock (line : List Char) : Option (List Char) :=
  if isStructural line then none
  else
    Option.some (joinCells (listMarker.removeFirst (removeHeading (quoteMarkers.removeFirst line))))

end DocLint.Markdown
