import DocLint.Document
import DocLint.Proofs.Text.Splitting
import DocLint.Proofs.Text.Trimming
import Mathlib.Data.List.TakeWhile

/-!
# Prose and fenced blocks

The lines of a markdown text fall into lines of prose and fenced blocks, in exactly one way. Only
the lines of prose are rendered, each by itself, so that what a block holds does not matter, and
texts that are put together where no block is open are rendered one after the other.
-/
namespace DocLint.Markdown

/-- A line that starts, after blanks, with a run of backticks or of tildes of exactly the length of
the fence, which is three or more. -/
structure IsFence (fence : Fence) (line : List Char) : Prop where
  mark : fence.mark = '`' ∨ fence.mark = '~'
  long : 3 ≤ fence.length
  run : ∃ blanks rest, line = blanks ++ List.replicate fence.length fence.mark ++ rest ∧
    Text.isBlankText blanks = true ∧ rest.head? ≠ some fence.mark

def IsClosing (opening : Fence) (line : List Char) : Prop :=
  ∃ closing, IsFence closing line ∧ closing.mark = opening.mark ∧ opening.length ≤ closing.length

/-- A line of prose, or a block: a fence, the lines below it and the fence that closes it. -/
inductive Segment where
  | prose (line : List Char)
  | block (opening : List Char) (inside : List (List Char)) (closing : Option (List Char))
deriving DecidableEq, Repr

namespace Segment

def lines : Segment → List (List Char)
  | prose line => [line]
  | block opening inside closing => opening :: inside ++ closing.toList

def proseOf : Segment → List (List Char)
  | prose line => [line]
  | block .. => []

end Segment

/-- Segments as they can follow each other: a line of prose is no fence, a block ends with the first
line that closes it, and only at the end of the text a block may be left open. -/
inductive Segmented : List Segment → Prop
  | nil : Segmented []
  | prose {line : List Char} {segments : List Segment} (plain : ∀ fence, ¬ IsFence fence line)
      (rest : Segmented segments) : Segmented (.prose line :: segments)
  | closed {opening closing : List Char} {inside : List (List Char)} {segments : List Segment}
      {fence : Fence} (opens : IsFence fence opening)
      (inner : ∀ line ∈ inside, ¬ IsClosing fence line) (closes : IsClosing fence closing)
      (rest : Segmented segments) : Segmented (.block opening inside (some closing) :: segments)
  | unclosed {opening : List Char} {inside : List (List Char)} {fence : Fence}
      (opens : IsFence fence opening) (inner : ∀ line ∈ inside, ¬ IsClosing fence line) :
      Segmented [.block opening inside none]

/-! ### Fences -/

variable {fence opening : Fence} {line : List Char}

theorem isFence_of_fence? (found : fence? line = some fence) : IsFence fence line := by
  rw [fence?] at found
  split at found
  case h_1 => cases found
  case h_2 mark rest start =>
    split at found
    case isFalse => cases found
    case isTrue marked =>
      dsimp only at found
      split at found
      case isFalse => cases found
      case isTrue long =>
        cases found
        refine ⟨by simpa using marked, long, line.takeWhile Text.isBlank,
          (mark :: rest).dropWhile (· == mark), ?_, ?_, ?_⟩
        · have run : (mark :: rest).takeWhile (· == mark) =
              List.replicate ((mark :: rest).takeWhile (· == mark)).length mark :=
            List.eq_replicate_of_mem fun c inside => by
              simpa using List.mem_takeWhile_imp inside
          rw [← run, List.append_assoc, List.takeWhile_append_dropWhile, ← start, Text.trimStart,
            List.takeWhile_append_dropWhile]
        · exact List.all_eq_true.mpr fun c inside => List.mem_takeWhile_imp inside
        · intro first
          have stops := List.head?_dropWhile_not (· == mark) (mark :: rest)
          rw [first] at stops
          simp at stops

theorem IsFence.trimStart_eq (isFence : IsFence fence line) :
    ∃ rest, Text.trimStart line = List.replicate fence.length fence.mark ++ rest ∧
      rest.head? ≠ some fence.mark := by
  obtain ⟨blanks, rest, rfl, blank, stops⟩ := isFence.run
  refine ⟨rest, ?_, stops⟩
  rw [List.append_assoc, Text.trimStart_blanks_append blank]
  obtain ⟨length, eq⟩ := Nat.exists_eq_add_of_le' (Nat.le_trans (by decide : 1 ≤ 3) isFence.long)
  have visible : Text.isBlank fence.mark = false := by
    rcases isFence.mark with same | same <;> rw [same] <;> rfl
  simp [eq, List.replicate_succ, Text.trimStart, visible]

theorem fence?_eq_some_iff : fence? line = some fence ↔ IsFence fence line := by
  refine ⟨isFence_of_fence?, fun isFence => ?_⟩
  obtain ⟨rest, start, stops⟩ := isFence.trimStart_eq
  obtain ⟨length, eq⟩ := Nat.exists_eq_add_of_le' (Nat.le_trans (by decide : 1 ≤ 3) isFence.long)
  have run : (List.replicate fence.length fence.mark ++ rest).takeWhile (· == fence.mark) =
      List.replicate fence.length fence.mark := by
    rw [List.takeWhile_append_of_pos (by simp)]
    cases rest with
    | nil => simp
    | cons c rest =>
      have other : c ≠ fence.mark := by simpa using stops
      simp [other]
  have marked : (fence.mark == '`' || fence.mark == '~') = true := by simpa using isFence.mark
  have long := isFence.long
  rw [eq, List.replicate_succ, List.cons_append] at start run
  rw [eq] at long
  rw [fence?, start]
  dsimp only
  rw [if_pos marked, run, List.length_cons, List.length_replicate, if_pos long, ← eq]

theorem fence?_eq_none_iff : fence? line = none ↔ ∀ fence, ¬ IsFence fence line := by
  rw [Option.eq_none_iff_forall_ne_some]
  exact forall_congr' fun fence => not_congr fence?_eq_some_iff

theorem IsFence.unique {other : Fence} (isFence : IsFence fence line)
    (another : IsFence other line) : fence = other :=
  Option.some.inj ((fence?_eq_some_iff.mpr isFence).symm.trans (fence?_eq_some_iff.mpr another))

theorem closesBlock_iff : closesBlock opening line = true ↔ IsClosing opening line := by
  rw [closesBlock, Option.any_eq_true]
  refine exists_congr fun closing => ?_
  rw [fence?_eq_some_iff, Fence.closes]
  simp

theorem closesBlock_eq_false_iff : closesBlock opening line = false ↔ ¬ IsClosing opening line := by
  rw [← closesBlock_iff, Bool.not_eq_true]

/-! ### Segments -/

/-- A block that is still open: its first line, the fence of that line and the lines so far. -/
structure OpenBlock where
  opening : List Char
  fence : Fence
  inside : List (List Char)

def segmentsFrom : Option OpenBlock → List (List Char) → List Segment
  | none, [] => []
  | none, line :: rest =>
    match fence? line with
    | none => .prose line :: segmentsFrom none rest
    | some fence => segmentsFrom (some ⟨line, fence, []⟩) rest
  | some block, [] => [.block block.opening block.inside none]
  | some block, line :: rest =>
    if closesBlock block.fence line then
      .block block.opening block.inside (some line) :: segmentsFrom none rest
    else segmentsFrom (some { block with inside := block.inside ++ [line] }) rest

structure OpenBlock.Sound (block : OpenBlock) : Prop where
  opens : IsFence block.fence block.opening
  inner : ∀ line ∈ block.inside, ¬ IsClosing block.fence line

def OpenBlock.lines (block : OpenBlock) : List (List Char) := block.opening :: block.inside

/-- The segments that are found can follow each other, and they take up the lines that were given.
The induction is over the lines; what an open block has taken up is accounted for. -/
theorem segmented_segmentsFrom (block : Option OpenBlock) (lines : List (List Char))
    (sound : ∀ b, block = some b → b.Sound) :
    Segmented (segmentsFrom block lines) ∧
      (segmentsFrom block lines).flatMap Segment.lines =
        (block.map OpenBlock.lines).getD [] ++ lines := by
  induction lines generalizing block with
  | nil =>
    cases block with
    | none => exact ⟨.nil, rfl⟩
    | some b =>
      obtain ⟨opens, inner⟩ := sound b rfl
      exact ⟨.unclosed opens inner, by simp [segmentsFrom, Segment.lines, OpenBlock.lines]⟩
  | cons line rest ih =>
    cases block with
    | none =>
      cases found : fence? line with
      | none =>
        obtain ⟨segmented, eq⟩ := ih none (by simp)
        simp only [segmentsFrom, found]
        exact ⟨.prose (fence?_eq_none_iff.mp found) segmented, by simp [Segment.lines, eq]⟩
      | some fence =>
        obtain ⟨segmented, eq⟩ := ih (some ⟨line, fence, []⟩) fun b same => by
          cases same
          exact ⟨isFence_of_fence? found, by simp⟩
        simp only [segmentsFrom, found]
        exact ⟨segmented, by simp [eq, OpenBlock.lines]⟩
    | some b =>
      obtain ⟨opens, inner⟩ := sound b rfl
      rw [segmentsFrom]
      cases closes : closesBlock b.fence line with
      | true =>
        obtain ⟨segmented, eq⟩ := ih none (by simp)
        rw [if_pos rfl]
        exact ⟨.closed opens inner (closesBlock_iff.mp closes) segmented,
          by simp [Segment.lines, OpenBlock.lines, eq]⟩
      | false =>
        have longer : ∀ l ∈ b.inside ++ [line], ¬ IsClosing b.fence l := by
          intro l member
          rcases List.mem_append.mp member with old | new
          · exact inner l old
          · rw [List.mem_singleton.mp new]
            exact closesBlock_eq_false_iff.mp closes
        obtain ⟨segmented, eq⟩ := ih (some { b with inside := b.inside ++ [line] }) fun _ same => by
          cases same
          exact ⟨opens, longer⟩
        rw [if_neg Bool.false_ne_true]
        exact ⟨segmented, by simp [eq, OpenBlock.lines]⟩

/-- The lines inside a block are added to it. -/
theorem segmentsFrom_inside (block : OpenBlock) {inside : List (List Char)}
    (inner : ∀ line ∈ inside, ¬ IsClosing block.fence line) (rest : List (List Char)) :
    segmentsFrom (some block) (inside ++ rest) =
      segmentsFrom (some { block with inside := block.inside ++ inside }) rest := by
  induction inside generalizing block with
  | nil => simp
  | cons line inside ih =>
    rw [List.forall_mem_cons] at inner
    rw [List.cons_append, segmentsFrom, closesBlock_eq_false_iff.mpr inner.1,
      if_neg Bool.false_ne_true, ih { block with inside := block.inside ++ [line] } inner.2]
    simp

/-- Segments that can follow each other are found again in their lines. -/
theorem segmentsFrom_lines {segments : List Segment} (segmented : Segmented segments) :
    segmentsFrom none (segments.flatMap Segment.lines) = segments := by
  induction segmented with
  | nil => rfl
  | prose plain _ ih =>
    rw [List.flatMap_cons, Segment.lines, List.singleton_append, segmentsFrom,
      fence?_eq_none_iff.mpr plain]
    simp only [ih]
  | @closed opening closing inside segments fence opens inner closes _ ih =>
    simp only [List.flatMap_cons, Segment.lines, Option.toList_some, List.append_assoc,
      List.cons_append, List.nil_append, segmentsFrom, fence?_eq_some_iff.mpr opens]
    rw [segmentsFrom_inside ⟨opening, fence, []⟩ inner, segmentsFrom, closesBlock_iff.mpr closes,
      if_pos rfl, ih]
    rfl
  | @unclosed opening inside fence opens inner =>
    simp only [List.flatMap_cons, List.flatMap_nil, Segment.lines, Option.toList_none,
      List.append_nil, segmentsFrom, fence?_eq_some_iff.mpr opens]
    have whole := segmentsFrom_inside ⟨opening, fence, []⟩ inner []
    rw [List.append_nil] at whole
    rw [whole]
    rfl

theorem Segmented.unique {segments others : List Segment} (segmented : Segmented segments)
    (another : Segmented others)
    (same : others.flatMap Segment.lines = segments.flatMap Segment.lines) : others = segments := by
  rw [← segmentsFrom_lines another, same, segmentsFrom_lines segmented]

/-! ### What is rendered -/

theorem proseLines_inside {inside : List (List Char)}
    (inner : ∀ line ∈ inside, ¬ IsClosing fence line) (rest : List (List Char)) :
    proseLines (some fence) (inside ++ rest) = proseLines (some fence) rest := by
  induction inside with
  | nil => rfl
  | cons line inside ih =>
    rw [List.forall_mem_cons] at inner
    rw [List.cons_append, proseLines, closesBlock_eq_false_iff.mpr inner.1,
      if_neg Bool.false_ne_true, ih inner.2]

/-- The lines of prose of a text are those of its segments. -/
theorem proseLines_of_segmented {segments : List Segment} (segmented : Segmented segments) :
    proseLines none (segments.flatMap Segment.lines) = segments.flatMap Segment.proseOf := by
  induction segmented with
  | nil => rfl
  | prose plain _ ih =>
    simp only [List.flatMap_cons, Segment.lines, Segment.proseOf, List.singleton_append, proseLines,
      fence?_eq_none_iff.mpr plain, ih]
  | closed opens inner closes _ ih =>
    simp only [List.flatMap_cons, Segment.lines, Segment.proseOf, Option.toList_some,
      List.append_assoc, List.cons_append, List.nil_append, proseLines,
      fence?_eq_some_iff.mpr opens]
    rw [proseLines_inside inner, proseLines, closesBlock_iff.mpr closes, if_pos rfl, ih]
  | @unclosed opening inside fence opens inner =>
    simp only [List.flatMap_cons, List.flatMap_nil, Segment.lines, Segment.proseOf,
      Option.toList_none, List.append_nil, proseLines, fence?_eq_some_iff.mpr opens]
    rw [← List.append_nil inside, proseLines_inside inner, proseLines]

theorem renderedLines_of_segmented {markdown : List Char} {segments : List Segment}
    (segmented : Segmented segments)
    (covers : segments.flatMap Segment.lines = Text.lines markdown) :
    renderedLines markdown = (segments.flatMap Segment.proseOf).map renderLine := by
  rw [renderedLines, ← covers, proseLines_of_segmented segmented]

/-- The lines inside a block may be changed, as long as none of them closes it. -/
theorem Segmented.change {before after : List Segment} {first : List Char}
    {inside changed : List (List Char)} {closing : Option (List Char)}
    (segmented : Segmented (before ++ .block first inside closing :: after))
    (opens : IsFence fence first) (inner : ∀ line ∈ changed, ¬ IsClosing fence line) :
    Segmented (before ++ .block first changed closing :: after) := by
  induction before with
  | nil =>
    cases segmented with
    | closed opened _ closes rest =>
      cases opened.unique opens
      exact .closed opens inner closes rest
    | unclosed => exact .unclosed opens inner
  | cons segment before ih =>
    rw [List.cons_append] at segmented
    generalize eq : before ++ .block first inside closing :: after = later at segmented
    cases segmented with
    | prose plain rest => exact .prose plain (ih (eq ▸ rest))
    | closed opened kept closes rest => exact .closed opened kept closes (ih (eq ▸ rest))
    | unclosed => simp at eq

/-- Other segments can follow where no block is left open. -/
theorem Segmented.append {segments more : List Segment} (segmented : Segmented segments)
    (shut : ∀ first inside, Segment.block first inside none ∉ segments)
    (others : Segmented more) : Segmented (segments ++ more) := by
  induction segmented with
  | nil => exact others
  | prose plain _ ih =>
    exact .prose plain (ih fun first inside member => shut first inside (.tail _ member))
  | closed opens inner closes _ ih =>
    exact .closed opens inner closes
      (ih fun first inside member => shut first inside (.tail _ member))
  | unclosed => exact absurd List.mem_cons_self (shut _ _)

theorem lines_append {a : List Char} (ends : a.getLast? = some '\n') (b : List Char) :
    Text.lines (a ++ b) = Text.lines a ++ Text.lines b := by
  have closed : ∀ c, a.getLast? = some c → (c == '\n') = true := by
    intro c last
    cases ends.symm.trans last
    rfl
  rw [Text.lines, Text.splitAfter_append closed, List.map_append]
  rfl

/-- A text that ends with a line break outside all blocks is rendered by itself, whatever comes
after it. -/
theorem renderedLines_append {a : List Char} {segments : List Segment}
    (segmented : Segmented segments) (covers : segments.flatMap Segment.lines = Text.lines a)
    (shut : ∀ first inside, Segment.block first inside none ∉ segments)
    (ends : a.getLast? = some '\n') (b : List Char) :
    renderedLines (a ++ b) = renderedLines a ++ renderedLines b := by
  obtain ⟨others, eq⟩ := segmented_segmentsFrom none (Text.lines b) (by simp)
  have both : (segments ++ segmentsFrom none (Text.lines b)).flatMap Segment.lines =
      Text.lines (a ++ b) := by
    rw [List.flatMap_append, covers, eq, lines_append ends]
    rfl
  rw [renderedLines_of_segmented (segmented.append shut others) both,
    renderedLines_of_segmented segmented covers, renderedLines_of_segmented others eq,
    List.flatMap_append, List.map_append]

/-- The lines of a text fall into prose and blocks in exactly one way, and its plain text has one
line for each line of prose, in their order. A change inside a block that does not close it changes
neither the text nor the lines of a document; and after a line break outside all blocks, what
follows is rendered as if it stood alone. -/
theorem toPlainText_of_segments (markdown : String) :
    ∃ segments, Segmented segments ∧
      segments.flatMap Segment.lines = Text.lines markdown.toList ∧
      (∀ others, Segmented others →
        others.flatMap Segment.lines = Text.lines markdown.toList → others = segments) ∧
      toPlainText markdown = String.ofList
        (Text.joinWith ['\n'] ((segments.flatMap Segment.proseOf).map renderLine)) ∧
      (∀ before first inside closing after fence changed,
        segments = before ++ .block first inside closing :: after → IsFence fence first →
        (∀ line ∈ changed, ¬ IsClosing fence line) → ∀ edited : String,
        Text.lines edited.toList =
          (before ++ .block first changed closing :: after).flatMap Segment.lines →
        ∀ file properties,
          (Document.ofParts file properties edited).text =
            (Document.ofParts file properties markdown).text ∧
          (Document.ofParts file properties edited).lines =
            (Document.ofParts file properties markdown).lines) ∧
      (markdown.toList.getLast? = some '\n' →
        (∀ first inside, Segment.block first inside none ∉ segments) → ∀ more : String,
        renderedLines (markdown ++ more).toList =
          renderedLines markdown.toList ++ renderedLines more.toList) := by
  obtain ⟨segmented, covers⟩ := segmented_segmentsFrom none (Text.lines markdown.toList) (by simp)
  refine ⟨_, segmented, covers, fun others another same => ?_, ?_, ?_, ?_⟩
  · exact segmented.unique another (same.trans covers.symm)
  · rw [toPlainText, renderedLines_of_segmented segmented covers]
  · intro before first inside closing after fence changed eq opens inner edited editedLines
    have kept := (eq ▸ segmented).change opens inner
    have text : toPlainText edited = toPlainText markdown := by
      rw [toPlainText, toPlainText, renderedLines_of_segmented kept editedLines.symm,
        renderedLines_of_segmented segmented covers, eq]
      simp only [List.flatMap_append, List.flatMap_cons, Segment.proseOf]
    intro file properties
    simp only [Document.ofParts, text, and_self]
  · intro ends shut more
    rw [String.toList_append]
    exact renderedLines_append segmented covers shut ends more.toList

/-- A line of prose above a block of tildes that holds a fence of backticks. -/
private def tildeSegments : List Segment :=
  [.prose ['a'], .block ['~', '~', '~'] [['`', '`', '`']] (some [' ', '~', '~', '~', '~'])]

private theorem segmented_tildeSegments : Segmented tildeSegments := by
  refine .prose (fence?_eq_none_iff.mp (by decide)) (.closed (isFence_of_fence?
    (by decide : fence? ['~', '~', '~'] = some ⟨'~', 3⟩)) ?_ ?_ .nil)
  · exact List.forall_mem_singleton.mpr (closesBlock_eq_false_iff.mp (by decide))
  · exact closesBlock_iff.mp (by decide)

/-- A shorter fence does not close the block, either. -/
theorem toPlainText_of_tilde_block :
    Text.lines "a\n~~~\n```\n ~~~~\n".toList = tildeSegments.flatMap Segment.lines ∧
    toPlainText "a\n~~~\n~~\nb\n ~~~~\n" = toPlainText "a\n~~~\n```\n ~~~~\n" ∧
    renderedLines "a\n~~~\n```\n ~~~~\nb".toList =
      renderedLines "a\n~~~\n```\n ~~~~\n".toList ++ renderedLines "b".toList := by
  have lines : Text.lines "a\n~~~\n```\n ~~~~\n".toList =
      tildeSegments.flatMap Segment.lines := by decide
  have editedLines : Text.lines "a\n~~~\n~~\nb\n ~~~~\n".toList =
      ([Segment.prose ['a']] ++ [Segment.block ['~', '~', '~'] [['~', '~'], ['b']]
        (some [' ', '~', '~', '~', '~'])]).flatMap Segment.lines := by decide
  obtain ⟨segments, -, -, unique, -, change, append⟩ :=
    toPlainText_of_segments "a\n~~~\n```\n ~~~~\n"
  cases unique tildeSegments segmented_tildeSegments lines.symm
  refine ⟨lines, ?_, ?_⟩
  · refine (change [.prose ['a']] ['~', '~', '~'] _ _ [] ⟨'~', 3⟩ [['~', '~'], ['b']] rfl
      (isFence_of_fence? (by decide)) ?_ _ editedLines "" []).1
    rw [List.forall_mem_cons, List.forall_mem_singleton]
    exact ⟨closesBlock_eq_false_iff.mp (by decide), closesBlock_eq_false_iff.mp (by decide)⟩
  · have joined : "a\n~~~\n```\n ~~~~\nb" = "a\n~~~\n```\n ~~~~\n" ++ "b" := by decide
    rw [joined]
    refine append (by decide) (fun first inside member => ?_) "b"
    simp [tildeSegments] at member

end DocLint.Markdown
