import DocLint.Proofs.Markdown.Blocks
import DocLint.Proofs.Markdown.Emphasis
import DocLint.Proofs.Markdown.SingleLine

/-!
# Prose

A line of prose starts with a letter and has none of the characters without which no inline mark can
occur. It is shown as it is, up to the blanks at its end, wherever it stands among the lines of a
text; what else it holds, such as dashes, quote signs or number signs after the first letter, is
nothing to the renderer.
-/
namespace DocLint.Markdown

open Pattern

variable {x : Char} {line : List Char}

/-- Word characters that are neither digits nor underscores. -/
def isLetter (x : Char) : Bool :=
  Unicode.isWordChar x && !Unicode.isDigit x && x != '_'

/-- A line that is blank, or whose first visible character is a letter, without the characters of
inline marks and of table cells. -/
structure IsProse (line : List Char) : Prop where
  opening : Text.isBlankText line = true ∨ ∃ blanks x rest, line = blanks ++ x :: rest ∧
    Text.isBlankText blanks = true ∧ Text.isBlank x = false ∧ isLetter x = true
  plain : ∀ x ∈ line, x ∉ ['*', '_', '`', '~', '[', '<', '|']

/-- A line, and what is shown of it when only the blanks at its end are removed. -/
structure Trimmed (line shown : List Char) : Prop where
  cut : ∃ blanks, line = shown ++ blanks ∧ Text.isBlankText blanks = true
  visible : ∀ x ∈ shown.getLast?, Text.isBlank x = false

theorem trimmed_trimEnd (line : List Char) : Trimmed line (Text.trimEnd line) where
  cut := by
    refine ⟨(line.reverse.takeWhile Text.isBlank).reverse, ?_, ?_⟩
    · rw [Text.trimEnd, Text.trimStart, ← List.reverse_append, List.takeWhile_append_dropWhile,
        List.reverse_reverse]
    · rw [Text.isBlankText, List.all_reverse, List.all_eq_true]
      exact fun x inside => List.mem_takeWhile_imp inside
  visible := by
    intro x last
    have stops := List.head?_dropWhile_not Text.isBlank line.reverse
    rw [Text.trimEnd, List.getLast?_reverse, Option.mem_def, Text.trimStart] at last
    rw [last] at stops
    simpa using stops

/-! ### Where no mark occurs -/

/-- The ASCII characters of block marks are no letters. -/
theorem blockMarks_of_isLetter (letter : isLetter x = true) (visible : Text.isBlank x = false) :
    blockMarks x = false := by
  rw [isLetter, Bool.and_eq_true, Bool.and_eq_true, Bool.not_eq_true', bne_iff_ne] at letter
  obtain ⟨⟨word, noDigit⟩, noUnderscore⟩ := letter
  have unlisted : ['-', '*', '_', '=', '|', ':', '[', '>', '#', '+', '.', ')'].contains x = false := by
    rw [← Bool.not_eq_true, List.contains_iff_mem]
    intro listed
    have ascii : ∀ y ∈ ['-', '*', '_', '=', '|', ':', '[', '>', '#', '+', '.', ')'],
        y.toNat < 128 ∧ (Unicode.isAsciiWordChar y = true → y = '_') :=
      forall_mem_of_all (by decide)
    obtain ⟨small, only⟩ := ascii x listed
    rw [Unicode.isWordChar_of_ascii small] at word
    exact noUnderscore (only word)
  simp only [blockMarks, visible, noDigit, unlisted, Bool.or_self]

theorem IsProse.trimStart_eq (prose : IsProse line) :
    Text.trimStart line = [] ∨
      ∃ x rest, Text.trimStart line = x :: rest ∧ Text.isBlank x = false ∧ isLetter x = true := by
  rcases prose.opening with blank | ⟨blanks, x, rest, rfl, blank, visible, letter⟩
  · exact .inl (Text.trimStart_eq_nil_iff.mpr blank)
  · refine .inr ⟨x, rest, ?_, visible, letter⟩
    rw [Text.trimStart_blanks_append blank, Text.trimStart,
      List.dropWhile_cons_of_neg (by simp [visible])]

theorem IsProse.unmarked (prose : IsProse line) : Unmarked line := by
  intro x first
  rcases prose.trimStart_eq with nothing | ⟨y, rest, eq, visible, letter⟩
  · rw [nothing] at first
    cases first
  · rw [eq] at first
    cases first
    exact blockMarks_of_isLetter letter visible

theorem IsProse.notMem (prose : IsProse line) {y : Char}
    (mark : y ∈ ['*', '_', '`', '~', '[', '<', '|']) : y ∉ line :=
  fun inside => prose.plain y inside mark

theorem fence?_of_prose (prose : IsProse line) : fence? line = none := by
  have inner : ∀ y ∈ Text.trimStart line, y ∈ line := fun y inside =>
    (List.dropWhile_sublist _).mem inside
  rw [fence?]
  cases seen : Text.trimStart line with
  | nil => rfl
  | cons y rest =>
    have inside : y ∈ line := inner y (seen ▸ List.mem_cons_self)
    have backtick : y ≠ '`' := fun same => prose.notMem (by simp) (same ▸ inside)
    have tilde : y ≠ '~' := fun same => prose.notMem (by simp) (same ▸ inside)
    simp [backtick, tilde]

/-- An image needs a bracket after its exclamation mark. -/
theorem image_nothing {s : Site} (absent : '[' ∉ s.rest) : image.pattern.matchAt? s = none := by
  cases rest : s.rest with
  | nil => exact image_startsIn.matchAt?_of_nil rest
  | cons x r =>
    by_cases bang : x = '!'
    · subst bang
      have after := Cursor.rest_past (c := .ofSite s) (u := ['!']) rest
      rw [matchAt?_eq_none_iff]
      refine (ends_seq_char (c := .ofSite s) rest).trans ((startsIn_char '[').seq _ ?_)
      intro y r' follows
      rw [one_eq_false_iff]
      rintro rfl
      rw [after] at follows
      exact absent (by simp [rest, follows])
    · exact image_startsIn.matchAt? rest (one_eq_false_iff.mpr bang)

theorem reduce_image_of_notMem (absent : '[' ∉ line) : image.reduce line = line := by
  have turns : image.pattern.Turns image.keep line line [] := by
    induction line with
    | nil => exact .nil
    | cons x r ih =>
      have here : image.pattern.Turns image.keep [x] [x] (r ++ []) := by
        refine .of_nothing fun s rest => image_nothing ?_
        rwa [rest, List.append_nil]
      exact here.append (ih fun inside => absent (List.mem_cons_of_mem x inside))
  exact turns.replaceAll_eq image_startsIn

/-- Every inline mark needs a character that prose lacks. -/
theorem reduceInline_of_prose (prose : IsProse line) : reduceInline line = line := by
  have strongFree : strong.reduce line = line := by
    refine Turns.replaceAll_eq (.of_outside strong_startsIn fun x inside => ?_) strong_startsIn
    rw [ofList_eq_false_iff]
    intro mark
    exact prose.plain x inside (List.mem_of_mem_take (i := 2) mark)
  have underscore : '_' ∉ line := prose.notMem (by simp)
  have first : line.head? ≠ some '_' := fun same => underscore (List.mem_of_head? same)
  rw [reduceInline]
  simp only [inlineMarks, List.foldl_cons, List.foldl_nil]
  rw [reduce_image_of_notMem (prose.notMem (by simp)),
    inlineLink.reduce_eq_self inlineLink_startsIn (prose.notMem (by simp)),
    referenceLink.reduce_eq_self referenceLink_startsIn (prose.notMem (by simp)),
    autolink.reduce_eq_self autolink_startsIn (prose.notMem (by simp)),
    htmlTag.reduce_eq_self htmlTag_startsIn (prose.notMem (by simp)),
    codeSpan.reduce_eq_self codeSpan_startsIn (prose.notMem (by simp)), strongFree,
    starEmphasis.reduce_eq_self starEmphasis_startsIn (prose.notMem (by simp)),
    reduce_underscoresInWords first (underscoresInWords_of_notMem underscore),
    strikethrough.reduce_eq_self strikethrough_startsIn (prose.notMem (by simp))]

theorem renderLine_of_prose (prose : IsProse line) : renderLine line = Text.trimEnd line := by
  rw [renderLine, reduceBlock_of_unmarked prose.unmarked (prose.notMem (by simp))]
  exact congrArg Text.trimEnd (reduceInline_of_prose prose)

/-! ### The text -/

def shownLines (segments : List Segment) : List (List Char) :=
  (segments.flatMap Segment.proseOf).map renderLine

theorem proseLines_of_prose {lines : List (List Char)} (prose : ∀ line ∈ lines, IsProse line) :
    proseLines none lines = lines := by
  induction lines with
  | nil => rfl
  | cons line lines ih =>
    rw [List.forall_mem_cons] at prose
    rw [proseLines, fence?_of_prose prose.1]
    exact congrArg _ (ih prose.2)

/-- Outside fenced blocks a line of prose is shown in its place as it is, only without the blanks at
its end, whatever the other lines are. So a text of such lines is shown line by line. -/
theorem toPlainText_keeps_prose (markdown : String) :
    (∀ segments before line after, Segmented segments →
      segments.flatMap Segment.lines = Text.lines markdown.toList →
      segments = before ++ .prose line :: after → IsProse line →
      ∃ shown, Trimmed line shown ∧
        toPlainText markdown = String.ofList
          (Text.joinWith ['\n'] (shownLines before ++ shown :: shownLines after))) ∧
    ((∀ line ∈ Text.lines markdown.toList, IsProse line) →
      ∃ shown, List.Forall₂ Trimmed (Text.lines markdown.toList) shown ∧
        toPlainText markdown = String.ofList (Text.joinWith ['\n'] shown)) := by
  constructor
  · intro segments before line after segmented covers split prose
    refine ⟨Text.trimEnd line, trimmed_trimEnd line, ?_⟩
    rw [toPlainText, renderedLines_of_segmented segmented covers, split, List.flatMap_append,
      List.flatMap_cons, Segment.proseOf, List.singleton_append, List.map_append, List.map_cons,
      renderLine_of_prose prose, shownLines, shownLines]
  · intro prose
    refine ⟨(Text.lines markdown.toList).map Text.trimEnd, ?_, ?_⟩
    · rw [List.forall₂_map_right_iff, List.forall₂_same]
      exact fun line _ => trimmed_trimEnd line
    · rw [toPlainText, renderedLines, proseLines_of_prose prose]
      exact congrArg (fun lines => String.ofList (Text.joinWith ['\n'] lines))
        (List.map_congr_left fun line inside => renderLine_of_prose (prose line inside))

private theorem isProse_of_checked {line : List Char} {x : Char} {blanks rest : List Char}
    (split : line = blanks ++ x :: rest) (blank : Text.isBlankText blanks = true)
    (letter : Unicode.isAsciiLetter x = true)
    (plain : ∀ y ∈ line, y ∉ ['*', '_', '`', '~', '[', '<', '|']) : IsProse line where
  opening := .inr ⟨blanks, x, rest, split, blank, isBlank_of_isAsciiLetter letter,
    of_isAsciiLetter (P := fun x => isLetter x = true) (by decide) letter⟩
  plain := plain

/-- Every mark of a block may stand after the first letter. -/
theorem toPlainText_keeps_indented_prose :
    IsProse "\t a - # > = + ! 1. é]: -  ".toList ∧
    (∃ shown, Trimmed "\t a - # > = + ! 1. é]: -  ".toList shown ∧
      toPlainText "~~~\n*x*\n~~~\n> *y*\n\t a - # > = + ! 1. é]: -  \n\nz" = String.ofList
        (Text.joinWith ['\n'] ([['y']] ++ shown :: [[], ['z']]))) ∧
    ∃ shown, List.Forall₂ Trimmed ["\t a - # > = + ! 1. é]: -  ".toList, [], ['z']] shown ∧
      toPlainText "\t a - # > = + ! 1. é]: -  \r\n\nz\n" =
        String.ofList (Text.joinWith ['\n'] shown) := by
  have prose : IsProse "\t a - # > = + ! 1. é]: -  ".toList :=
    isProse_of_checked (show _ = ['\t', ' '] ++ 'a' :: " - # > = + ! 1. é]: -  ".toList by decide)
      (by decide) (by decide) (forall_mem_of_all (by decide))
  have last : IsProse ['z'] :=
    isProse_of_checked (show _ = [] ++ 'z' :: [] by decide) (by decide) (by decide)
      (forall_mem_of_all (by decide))
  have lines : Text.lines "\t a - # > = + ! 1. é]: -  \r\n\nz\n".toList =
      ["\t a - # > = + ! 1. é]: -  ".toList, [], ['z']] := by decide
  refine ⟨prose, ?_, ?_⟩
  · have segmented := segmented_segmentsFrom none
      (Text.lines "~~~\n*x*\n~~~\n> *y*\n\t a - # > = + ! 1. é]: -  \n\nz".toList) (by simp)
    exact (toPlainText_keeps_prose _).1 _ [.block ['~', '~', '~'] [['*', 'x', '*']]
      (some ['~', '~', '~']), .prose "> *y*".toList] _ [.prose [], .prose ['z']] segmented.1
      segmented.2 (by decide) prose
  · rw [← lines]
    refine (toPlainText_keeps_prose _).2 ?_
    rw [lines]
    simp only [List.forall_mem_cons]
    exact ⟨prose, ⟨.inl rfl, by simp⟩, last, by simp⟩

end DocLint.Markdown
