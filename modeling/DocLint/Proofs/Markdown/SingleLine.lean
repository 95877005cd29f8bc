import DocLint.Markdown.Rendering
import DocLint.Proofs.Markdown.Marks
import DocLint.Proofs.Text.Ascii
import DocLint.Proofs.Text.Pieces
import DocLint.Proofs.Text.Trimming

/-!
# Lines without block marks

Every block mark is looked for at the start of a line, after blanks at most. A line whose first
visible character is none of theirs, such as a letter, has none of them, and if it has no bars
between cells either, only its inline marks are reduced.
-/
namespace DocLint.Pattern

variable {p q : Pattern} {set other : CharSet} {s : Site} {text : List Char}

/-- What has to match at the start of the text matches nowhere else. -/
theorem searchFrom_start_of_inner (inner : s.before ≠ none) (rest : List Char) :
    (seq start q).searchFrom s rest = none := by
  have nothing : ∀ t : Site, t.before ≠ none → (seq start q).matchAt? t = none := by
    intro t inside
    rw [matchAt?_eq_none_iff, ends_seq, start, ends_anchor, if_neg, List.flatMap_nil]
    simpa [Anchor.holds] using inside
  induction rest generalizing s with
  | nil => rw [searchFrom, nothing s inner]
  | cons x r ih =>
    rw [searchFrom, nothing s inner]
    exact ih (by simp [Site.after])

/-- The pattern matches only where, after blanks at most, a character of the set follows. -/
def OpensIn (p : Pattern) (set : CharSet) : Prop :=
  ∀ c : Cursor, (∀ x ∈ (Text.trimStart c.rest).head?, set x = false) → p.ends c = []

theorem StartsIn.opensIn (starts : p.StartsIn set)
    (visible : ∀ x, set x = true → Text.isBlank x = false) : p.OpensIn set := by
  intro c outside
  refine starts c fun x r rest => ?_
  cases inside : set x with
  | false => rfl
  | true =>
    have first : Text.trimStart c.rest = x :: r := by
      rw [rest, Text.trimStart, List.dropWhile_cons_of_neg (by simp [visible x inside])]
    have absent := outside x (by rw [first]; rfl)
    rwa [inside] at absent

theorem opensIn_char {x : Char} (visible : Text.isBlank x = false) :
    (char x).OpensIn (CharSet.one x) := by
  refine (startsIn_char x).opensIn fun y same => ?_
  rw [CharSet.one, beq_iff_eq] at same
  rw [same]
  exact visible

theorem OpensIn.seq (opens : p.OpensIn set) : (seq p q).OpensIn set := fun c outside => by
  rw [ends_seq, opens c outside, List.flatMap_nil]

theorem OpensIn.alt (opens : p.OpensIn set) (also : q.OpensIn other) :
    (alt p q).OpensIn (set.union other) := fun c outside => by
  have both : ∀ x ∈ (Text.trimStart c.rest).head?, set x = false ∧ other x = false :=
    fun x first => by simpa [CharSet.union] using outside x first
  rw [ends_alt, opens c fun x first => (both x first).1, also c fun x first => (both x first).2,
    List.append_nil]

/-- A repetition of one round or more opens like one round. -/
theorem OpensIn.times {least : Nat} {most : Option Nat} {greedy : Bool}
    (opens : p.OpensIn set) : (times p (least + 1) most greedy).OpensIn set := fun c outside => by
  have none : rounds p.ends (least + 1) c = [] := by
    rw [rounds, opens c outside, List.flatMap_nil]
  exact congrArg (List.flatMap _) none

/-- If the first visible character is not in its set, then a run leads over blanks only, so that
what follows it has to open with that character. -/
theorem OpensIn.after_run {least : Nat} {most : Option Nat} {greedy : Bool}
    (opens : q.OpensIn other) :
    (Pattern.seq (run set least most greedy) q).OpensIn (set.union other) := by
  intro c outside
  have both : ∀ x ∈ (Text.trimStart c.rest).head?, set x = false ∧ other x = false :=
    fun x first => by simpa [CharSet.union] using outside x first
  rw [ends_seq, List.flatMap_eq_nil_iff]
  intro d member
  obtain ⟨u, rest, inside⟩ := of_mem_ends_run member
  refine opens d fun x first => (both x ?_).2
  cases seen : Text.trimStart u with
  | nil =>
    rw [rest, Text.trimStart_blanks_append (Text.trimStart_eq_nil_iff.mp seen)]
    exact first
  | cons y v =>
    have within : y ∈ u := (List.dropWhile_sublist _).mem (seen ▸ List.mem_cons_self)
    have sees : Text.trimStart c.rest = y :: (v ++ d.rest) := by
      rw [rest, Text.trimStart, List.dropWhile_append, ← Text.trimStart, seen]
      rfl
    have absent := (both y (by rw [sees]; rfl)).1
    rw [inside y within] at absent
    cases absent

theorem OpensIn.after_blanks {least : Nat} {most : Option Nat} {greedy : Bool}
    (opens : q.OpensIn set) : (Pattern.seq (run Text.isBlank least most greedy) q).OpensIn set := by
  intro c outside
  refine opens.after_run c fun x first => ?_
  have visible := List.head?_dropWhile_not Text.isBlank c.rest
  rw [Option.mem_def, Text.trimStart] at first
  rw [first] at visible
  rw [CharSet.union, outside x first, Bool.or_false]
  simpa using visible

theorem search_start_eq_none (opens : q.OpensIn set)
    (outside : ∀ x ∈ (Text.trimStart text).head?, set x = false) :
    (seq start q).search text = none := by
  have nothing : (seq start q).matchAt? (.first text) = none :=
    matchAt?_eq_none_iff.mpr ((List.flatMap_singleton ..).trans (opens _ outside))
  cases text with
  | nil => rw [search, searchFrom, nothing]
  | cons x r =>
    rw [search, searchFrom, nothing]
    exact searchFrom_start_of_inner (by simp [Site.after, Site.first]) r

theorem found_eq_false (none : p.search text = none) : p.found text = false := by
  rw [found, none]
  rfl

theorem removeFirst_eq_self (none : p.search text = none) : p.removeFirst text = text := by
  rw [removeFirst, none]
  rfl

end DocLint.Pattern

namespace DocLint.Markdown

open Pattern

variable {x : Char} {r line : List Char}

/-! ### Block marks -/

def blockMarks : CharSet := fun x =>
  Text.isBlank x || Unicode.isDigit x ||
    ['-', '*', '_', '=', '|', ':', '[', '>', '#', '+', '.', ')'].contains x

theorem blockMarks_of_isAsciiLetter : Unicode.isAsciiLetter x = true → blockMarks x = false :=
  of_isAsciiLetter (P := fun x => blockMarks x = false) (by decide)

/-- The first visible character of a line belongs to no block mark. -/
def Unmarked (line : List Char) : Prop := ∀ x ∈ (Text.trimStart line).head?, blockMarks x = false

theorem unmarked_of_letter (letter : Unicode.isAsciiLetter x = true) : Unmarked (x :: r) := by
  intro y first
  have visible : Text.trimStart (x :: r) = x :: r :=
    List.dropWhile_cons_of_neg (by simp [isBlank_of_isAsciiLetter letter])
  rw [visible] at first
  cases first
  exact blockMarks_of_isAsciiLetter letter

theorem search_block_eq_none {q : Pattern} {set : CharSet} (opens : q.OpensIn set)
    (subset : ∀ y, set y = true → blockMarks y = true) (unmarked : Unmarked line) :
    (seq start q).search line = none := by
  refine search_start_eq_none opens fun y first => ?_
  cases inside : set y with
  | false => rfl
  | true =>
    have absent := unmarked y first
    rw [subset y inside] at absent
    cases absent

theorem search_thematicBreak (unmarked : Unmarked line) : thematicBreak.search line = none := by
  have rule {c : Char} (visible : Text.isBlank c = false) : (ruleOf c).OpensIn (CharSet.one c) :=
    (opensIn_char visible).seq.times
  have equals : (Pattern.seq (Pattern.some (CharSet.one '=')) blanks).OpensIn (CharSet.one '=') :=
    startsIn_run.seq.opensIn fun y same => by
      rw [beq_iff_eq.mp same]
      rfl
  refine search_block_eq_none ((rule rfl).alt ((rule rfl).alt ((rule rfl).alt
    equals))).seq.after_blanks ?_ unmarked
  intro y
  simp [blockMarks, CharSet.union, CharSet.one]
  grind

theorem search_tableDivider (unmarked : Unmarked line) : tableDivider.search line = none := by
  have dashes (q : Pattern) :
      (Pattern.seq (Pattern.some (CharSet.one '-')) q).OpensIn (CharSet.one '-') :=
    startsIn_run.seq.opensIn fun y same => by
      rw [beq_iff_eq.mp same]
      rfl
  have rule : columnRule.OpensIn ((CharSet.one ':').union (CharSet.one '-')) :=
    (dashes _).after_run
  refine search_block_eq_none rule.seq.after_blanks.after_run.after_blanks ?_ unmarked
  intro y
  simp [blockMarks, CharSet.union, CharSet.one]
  grind

theorem search_linkDefinition (unmarked : Unmarked line) : linkDefinition.search line = none := by
  refine search_block_eq_none (opensIn_char (x := '[') rfl).seq.after_blanks ?_ unmarked
  intro y
  simp [blockMarks, CharSet.one]
  grind

theorem search_quoteMarkers (unmarked : Unmarked line) : quoteMarkers.search line = none := by
  refine search_block_eq_none (opensIn_char (x := '>') rfl).seq.times.after_blanks ?_ unmarked
  intro y
  simp [blockMarks, CharSet.one]
  grind

theorem search_headingMark (unmarked : Unmarked line) : headingMark.search line = none := by
  have mark (q : Pattern) : (Pattern.seq (run (CharSet.one '#') 1 (some 6) true) q).OpensIn
      (CharSet.one '#') :=
    startsIn_run.seq.opensIn fun y same => by
      rw [beq_iff_eq.mp same]
      rfl
  refine search_block_eq_none (mark _).after_blanks ?_ unmarked
  intro y
  simp [blockMarks, CharSet.one]
  grind

theorem search_listMarker (unmarked : Unmarked line) : listMarker.search line = none := by
  have visible (cs : List Char) (all : ∀ y ∈ cs, Text.isBlank y = false) :
      (oneOf (CharSet.ofList cs)).OpensIn (CharSet.ofList cs) :=
    (startsIn_oneOf _).opensIn fun y inside => all y (by simpa [CharSet.ofList] using inside)
  refine search_block_eq_none ((visible _ (forall_mem_of_all (by decide))).alt
    (visible _ (forall_mem_of_all (by decide))).after_run).seq.after_blanks ?_ unmarked
  intro y
  simp [blockMarks, CharSet.union, CharSet.ofList]
  grind

theorem reduceBlock_of_unmarked (unmarked : Unmarked line) (uncut : '|' ∉ line) :
    reduceBlock line = some line := by
  have structural : isStructural line = false := by
    rw [isStructural, found_eq_false (search_thematicBreak unmarked),
      found_eq_false (search_tableDivider unmarked), found_eq_false (search_linkDefinition unmarked)]
    rfl
  rw [reduceBlock, structural, if_neg Bool.false_ne_true,
    removeFirst_eq_self (search_quoteMarkers unmarked), removeHeading,
    found_eq_false (search_headingMark unmarked), if_neg Bool.false_ne_true,
    removeFirst_eq_self (search_listMarker unmarked), joinCells, if_neg (by simpa using uncut)]

/-! ### The rendered line -/

theorem lines_eq_singleton {line : List Char} (some : line ≠ []) (single : '\n' ∉ line) :
    Text.lines line = [line] := by
  have uncut : ∀ x ∈ line, (x == '\n') = false := by
    intro x inside
    rw [beq_eq_false_iff_ne]
    rintro rfl
    exact single inside
  have unbroken : Text.chomp line = line := by
    have last : '\n' ∉ line.reverse := by simpa using single
    rw [Text.chomp]
    split
    case h_1 eq => rw [eq] at last; simp at last
    case h_2 eq => rw [eq] at last; simp at last
    case h_3 => rfl
  rw [Text.lines, Text.splitAfter_uncut some uncut, List.map_singleton, unbroken]

theorem fence?_of_letter (letter : Unicode.isAsciiLetter x = true) : fence? (x :: r) = none := by
  have unmarked : (x == '`' || x == '~') = false :=
    of_isAsciiLetter (P := fun x => (x == '`' || x == '~') = false) (by decide) letter
  simp [fence?, Text.trimStart, isBlank_of_isAsciiLetter letter, unmarked]

/-- A line that starts with a letter is rendered to what is left of its inline marks. -/
theorem toPlainText_of_letter (letter : Unicode.isAsciiLetter x = true) (uncut : '|' ∉ x :: r)
    (single : '\n' ∉ x :: r) : toPlainText (String.ofList (x :: r)) =
      String.ofList (Text.trimEnd (reduceInline (x :: r))) := by
  have lines := lines_eq_singleton (List.cons_ne_nil x r) single
  rw [toPlainText, renderedLines, String.toList_ofList, lines]
  simp [proseLines, fence?_of_letter letter, renderLine,
    reduceBlock_of_unmarked (unmarked_of_letter letter) uncut,
    Text.joinWith]

end DocLint.Markdown
