import DocLint.Report.Summary
import DocLint.Proofs.Text.Ascii
import DocLint.Proofs.Text.Splitting
import Mathlib.Data.List.Infix

/-!
# The layout of a report for people

Messages and names of files may hold line breaks of their own, so results take any number of lines.
What a reader looks for stands at a fixed distance from an end of the report: the counts from its
start, the verdict from its end.
-/
namespace DocLint.Report

/-- The lines of a printed text, the last of them being what follows the last line break. -/
def printedLines (text : String) : List String :=
  (Text.splitOn (· == '\n') text.toList).map String.ofList

theorem printedLines_endLine (line text : String) :
    printedLines (line ++ "\n" ++ text) = printedLines line ++ printedLines text := by
  have spelled : (line ++ "\n" ++ text).toList = line.toList ++ '\n' :: text.toList := by
    simp [String.toList_append]
  have pieces := @Text.splitOn_append_cons (· == '\n') '\n' rfl line.toList text.toList
  rw [printedLines, spelled, pieces, List.map_append]
  rfl

theorem printedLines_join (lines : List String) :
    printedLines (String.join (lines.map (· ++ "\n"))) = lines.flatMap printedLines ++ [""] := by
  induction lines with
  | nil => rfl
  | cons line rest ih =>
    rw [List.map_cons, String.join_cons, printedLines_endLine, ih, List.flatMap_cons,
      List.append_assoc]

def Unbroken (lines : List String) : Prop :=
  ∀ line ∈ lines, '\n' ∉ line.toList

theorem printedLines_of_unbroken {line : String} (unbroken : '\n' ∉ line.toList) :
    printedLines line = [line] := by
  have uncut : ∀ c ∈ line.toList, (c == '\n') = false := by
    intro c inside
    rw [beq_eq_false_iff_ne]
    rintro rfl
    exact unbroken inside
  rw [printedLines, Text.splitOn_eq_singleton uncut, List.map_singleton, String.ofList_toList]

theorem flatMap_printedLines_of_unbroken {lines : List String} (unbroken : Unbroken lines) :
    lines.flatMap printedLines = lines := by
  rw [List.flatMap_congr fun line member => printedLines_of_unbroken (unbroken line member)]
  exact List.flatMap_singleton' lines

theorem unbroken_countLines (s : Summary) : Unbroken (countLines s) := by
  have plain := not_mem_toDigits (x := '\n') rfl
  simp [Unbroken, countLines, String.toList_append, plain]

theorem not_mem_ruler {c d : Char} (other : d ≠ c) : d ∉ (ruler c).toList := by
  simp [ruler, other]

theorem unbroken_verdictLine (r : Report) : '\n' ∉ (verdictLine r).toList := by
  have plain := not_mem_toDigits (x := '\n') rfl
  have named : '\n' ∉ r.status.name.toList := by
    cases r.status <;> decide
  rw [verdictLine]
  split <;> simp [String.toList_append, plain, named]

def Says (line phrase : String) : Prop :=
  phrase.toList <:+: line.toList

/-- The verdict tells of a pass exactly if nothing blocks: the other one has no `p` in it. -/
theorem says_passed_verdictLine_iff (r : Report) :
    Says (verdictLine r) "passed validation" ↔ r.isOk = true := by
  rw [verdictLine]
  cases r.isOk with
  | true =>
    refine iff_of_true ?_ rfl
    refine ⟨("\u2713 " ++ toString r.summary.fileCount ++ " file(s) ").toList,
      (" (" ++ r.status.name ++ ")").toList, ?_⟩
    simp [String.toList_append]
  | false =>
    refine iff_of_false ?_ Bool.false_ne_true
    intro said
    have plain := not_mem_toDigits (x := 'p') rfl
    have named : 'p' ∉ r.status.name.toList := by
      cases r.status <;> decide
    have inside := said.subset (show 'p' ∈ "passed validation".toList by decide)
    simp [String.toList_append, plain, named] at inside

theorem unbroken_heading :
    Unbroken ["", ruler '=', "  DOCUMENT VALIDATION", ruler '=', ""] := by
  have rule := not_mem_ruler (c := '=') (d := '\n') (by decide)
  simp [Unbroken, rule]

theorem unbroken_ending (r : Report) : Unbroken [ruler '=', verdictLine r, ruler '='] := by
  have rule := not_mem_ruler (c := '=') (d := '\n') (by decide)
  simp [Unbroken, rule, unbroken_verdictLine r]

/-- A printed report, line by line. -/
theorem printedLines_humanText (r : Report) :
    printedLines r.humanText =
      ["", ruler '=', "  DOCUMENT VALIDATION", ruler '=', ""] ++ countLines r.summary ++ [""] ++
        (resultLines r.results).flatMap printedLines ++
        [ruler '=', verdictLine r, ruler '=', ""] := by
  rw [humanText, printedLines_join, humanLines]
  simp only [List.flatMap_append]
  rw [flatMap_printedLines_of_unbroken unbroken_heading,
    flatMap_printedLines_of_unbroken (unbroken_countLines r.summary),
    flatMap_printedLines_of_unbroken (unbroken_ending r)]
  simp only [List.append_assoc]
  rfl

/-- The counts stand after a heading of five lines. -/
theorem counts_printed (r : Report) :
    ((printedLines r.humanText).drop 5).take 4 = countLines r.summary := by
  rw [printedLines_humanText]
  rfl

/-- The verdict is followed by a ruler and a line break. -/
theorem verdict_printed (r : Report) :
    (printedLines r.humanText).reverse[2]? = some (verdictLine r) := by
  rw [printedLines_humanText, List.reverse_append]
  rfl

end DocLint.Report
