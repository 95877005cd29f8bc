import DocLint.Proofs.Markdown.Blocks
import DocLint.Proofs.Markdown.FramedMarks
import DocLint.Proofs.Markdown.Prose
import DocLint.Proofs.Pattern.Deleting
import DocLint.Proofs.Text.Sublists

/-!
# Rendering deletes

Every step of rendering a line deletes characters, except that bars between the cells of a table row
become blanks. So a rendered line is a sublist of its source line with blanks for bars, and the
lines of a document, put together, are a sublist of its markdown with blanks for bars. Nothing is
added, repeated or moved, however marks overlap or stand inside each other.
-/
namespace DocLint.Markdown

open Pattern

variable {line block : List Char}

def barAsBlank (c : Char) : Char := if c == '|' then ' ' else c

/-- A line as it is shown: on one line, without blanks at its end, and with characters of its source
line only, in their order, where bars count as blanks. -/
structure ShownOf (source shown : List Char) : Prop where
  single : '\n' ∉ shown
  visible : ∀ x ∈ shown.getLast?, Text.isBlank x = false
  deletes : shown.Sublist (source.map barAsBlank)

/-! ### Block marks -/

theorem removeHeading_sublist (line : List Char) : (removeHeading line).Sublist line := by
  rw [removeHeading]
  split
  · exact (removeFirst_sublist _ _).trans (removeFirst_sublist _ _)
  · exact List.Sublist.refl line

theorem map_barAsBlank_of_notMem (uncut : '|' ∉ line) : line.map barAsBlank = line := by
  have same : ∀ x ∈ line, barAsBlank x = x := by
    intro x inside
    refine if_neg fun bar => uncut ?_
    rwa [← beq_iff_eq.mp bar]
  exact (List.map_congr_left same).trans (List.map_id line)

/-- A row of a table is its cells with blanks between them. -/
theorem joinCells_sublist (line : List Char) : (joinCells line).Sublist (line.map barAsBlank) := by
  rw [joinCells]
  split
  case isTrue => exact Text.joinWith_trimmed_sublist (· == '|') ' ' line
  case isFalse uncut =>
    have same : line.map barAsBlank = line := map_barAsBlank_of_notMem (by simpa using uncut)
    exact same.symm ▸ List.Sublist.refl line

theorem reduceBlock_sublist (reduced : reduceBlock line = some block) :
    block.Sublist (line.map barAsBlank) := by
  rw [reduceBlock] at reduced
  split at reduced
  case isTrue => cases reduced
  case isFalse =>
    cases reduced
    have unquoted := removeFirst_sublist quoteMarkers line
    have unheaded := (removeHeading_sublist _).trans unquoted
    have unlisted := (removeFirst_sublist listMarker _).trans unheaded
    exact (joinCells_sublist _).trans (unlisted.map barAsBlank)

/-! ### Inline marks -/

/-- The groups of every mark are numbered in their order, and so are those that are kept. -/
theorem inOrder_of_mem {mark : InlineMark} (member : mark ∈ inlineMarks) :
    mark.pattern.InOrder mark.keep := by
  have all : ∀ mark ∈ inlineMarks, mark.pattern.groupNumbers.Pairwise (· < ·) ∧
      mark.keep.Pairwise (· < ·) := by decide
  obtain ⟨numbered, asked⟩ := all mark member
  exact ⟨numbered, asked⟩

theorem foldl_reduce_sublist {marks : List InlineMark}
    (known : ∀ mark ∈ marks, mark ∈ inlineMarks) (line : List Char) :
    (marks.foldl (fun line mark => mark.reduce line) line).Sublist line := by
  induction marks generalizing line with
  | nil => exact List.Sublist.refl line
  | cons mark marks ih =>
    obtain ⟨first, later⟩ := List.forall_mem_cons.mp known
    exact (ih later _).trans
      (replaceAll_sublist (shortens_of_mem first) (inOrder_of_mem first) line)

theorem reduceInline_sublist (line : List Char) : (reduceInline line).Sublist line :=
  foldl_reduce_sublist (fun _ member => member) line

/-! ### Lines -/

theorem renderLine_sublist (line : List Char) :
    (renderLine line).Sublist (line.map barAsBlank) := by
  rw [renderLine]
  cases reduced : reduceBlock line with
  | none => exact List.nil_sublist _
  | some block =>
    exact (Text.trimEnd_sublist _).trans
      ((reduceInline_sublist block).trans (reduceBlock_sublist reduced))

theorem visible_renderLine (line : List Char) :
    ∀ x ∈ (renderLine line).getLast?, Text.isBlank x = false := by
  rw [renderLine]
  cases reduceBlock line with
  | none => simp
  | some block => exact (trimmed_trimEnd (reduceInline block)).visible

theorem shownOf_renderLine (single : '\n' ∉ line) : ShownOf line (renderLine line) where
  single inside := by
    obtain ⟨x, within, same⟩ := List.mem_map.mp ((renderLine_sublist line).subset inside)
    rw [barAsBlank] at same
    split at same
    · cases same
    · exact single (same ▸ within)
  visible := visible_renderLine line
  deletes := renderLine_sublist line

theorem flatten_shown_sublist {sources shown : List (List Char)}
    (each : List.Forall₂ ShownOf sources shown) :
    shown.flatten.Sublist (sources.flatten.map barAsBlank) := by
  induction each with
  | nil => exact List.Sublist.refl []
  | cons first _ ih =>
    rw [List.flatten_cons, List.flatten_cons, List.map_append]
    exact first.deletes.append ih

theorem proseOf_sublist (segment : Segment) : segment.proseOf.Sublist segment.lines := by
  cases segment with
  | prose line => exact List.Sublist.refl [line]
  | block opening inside closing => exact List.nil_sublist _

/-- The lines of prose are among the lines of the text. -/
theorem prose_sublist {markdown : List Char} {segments : List Segment}
    (covers : segments.flatMap Segment.lines = Text.lines markdown) :
    (segments.flatMap Segment.proseOf).Sublist (Text.lines markdown) := by
  rw [← covers]
  exact List.Sublist.flatMap_right segments fun segment _ => proseOf_sublist segment

/-! ### Texts and documents -/

theorem flatMap_linesOfText_sublist (shown : List (List Char)) :
    ((linesOfText (String.ofList (Text.joinWith ['\n'] shown))).flatMap String.toList).Sublist
      shown.flatten := by
  have chars (lines : List (List Char)) :
      (lines.map String.ofList).flatMap String.toList = lines.flatten := by
    have same : String.toList ∘ String.ofList = id := funext fun _ => String.toList_ofList
    rw [List.flatMap_def, List.map_map, same, List.map_id]
  rw [linesOfText, String.toList_ofList, chars]
  exact Text.flatten_nonBlankLines_sublist shown

theorem of_mem_linesOfText {text line : String} (member : line ∈ linesOfText text) :
    Text.isBlankText line.toList = false ∧ '\r' ∉ line.toList ∧ '\n' ∉ line.toList := by
  obtain ⟨chars, inside, rfl⟩ := List.mem_map.mp member
  rw [String.toList_ofList]
  exact Text.of_mem_nonBlankLines inside

/-- Every line of prose is shown on one line, without blanks at its end, as a sublist of itself with
blanks for bars. So the lines of a document are not blank and hold no line breaks, and put together
they are a sublist of its markdown with blanks for bars. -/
theorem toPlainText_only_deletes (markdown : String) :
    ∃ segments shown, Segmented segments ∧
      segments.flatMap Segment.lines = Text.lines markdown.toList ∧
      toPlainText markdown = String.ofList (Text.joinWith ['\n'] shown) ∧
      List.Forall₂ ShownOf (segments.flatMap Segment.proseOf) shown ∧
      ∀ file properties,
        (∀ line ∈ (Document.ofParts file properties markdown).lines,
          Text.isBlankText line.toList = false ∧ '\r' ∉ line.toList ∧ '\n' ∉ line.toList) ∧
        ((Document.ofParts file properties markdown).lines.flatMap String.toList).Sublist
          ((Document.ofParts file properties markdown).markdown.toList.map barAsBlank) := by
  obtain ⟨segmented, covers⟩ := segmented_segmentsFrom none (Text.lines markdown.toList) (by simp)
  rw [Option.map_none, Option.getD_none, List.nil_append] at covers
  generalize segmentsFrom none (Text.lines markdown.toList) = segments at segmented covers
  have text : toPlainText markdown = String.ofList
      (Text.joinWith ['\n'] ((segments.flatMap Segment.proseOf).map renderLine)) := by
    rw [toPlainText, renderedLines_of_segmented segmented covers]
  have single : ∀ line ∈ segments.flatMap Segment.proseOf, '\n' ∉ line :=
    fun line inside => Text.notMem_of_mem_lines ((prose_sublist covers).subset inside)
  have each : List.Forall₂ ShownOf (segments.flatMap Segment.proseOf)
      ((segments.flatMap Segment.proseOf).map renderLine) := by
    rw [List.forall₂_map_right_iff, List.forall₂_same]
    exact fun line inside => shownOf_renderLine (single line inside)
  have kept : ((linesOfText (toPlainText markdown)).flatMap String.toList).Sublist
      (markdown.toList.map barAsBlank) := by
    have source := (prose_sublist covers).flatten.trans (Text.flatten_lines_sublist markdown.toList)
    rw [text]
    exact ((flatMap_linesOfText_sublist _).trans (flatten_shown_sublist each)).trans
      (source.map barAsBlank)
  refine ⟨segments, _, segmented, covers, text, each, fun file properties => ?_⟩
  simp only [Document.ofParts]
  exact ⟨fun line member => of_mem_linesOfText member, kept⟩

/-- Emphasis over a carriage return and underscored text, and a code span that a bar cuts, in a
heading above a block. -/
theorem toPlainText_only_deletes_nested :
    "b c d" ∈ (Document.ofParts "x" [] "# *a\r_b_* |`c|d`\n~~~\ne\n~~~\n").lines ∧
    (Text.isBlankText "b c d".toList = false ∧ '\r' ∉ "b c d".toList ∧ '\n' ∉ "b c d".toList) ∧
    (["a", "b c d"].flatMap String.toList).Sublist
      ("# *a\r_b_* |`c|d`\n~~~\ne\n~~~\n".toList.map barAsBlank) := by
  have lines : (Document.ofParts "x" [] "# *a\r_b_* |`c|d`\n~~~\ne\n~~~\n").lines =
      ["a", "b c d"] := rfl
  obtain ⟨-, -, -, -, -, -, documents⟩ :=
    toPlainText_only_deletes "# *a\r_b_* |`c|d`\n~~~\ne\n~~~\n"
  obtain ⟨each, kept⟩ := documents "x" []
  have member : "b c d" ∈ (Document.ofParts "x" []
      "# *a\r_b_* |`c|d`\n~~~\ne\n~~~\n").lines := by
    rw [lines]
    simp
  rw [lines] at kept
  exact ⟨member, each _ member, kept⟩

end DocLint.Markdown
