import DocLint.Proofs.Markdown.Emphasis
import DocLint.Proofs.Pattern.Framing

/-!
# Marks in a larger line

All inline marks but underscored text start and end with characters of their own and look at
nothing around them. A part of a line between texts without such characters is reduced as it would
be alone.
-/
namespace DocLint.Markdown

open Pattern

/-! ### The characters that marks start and end with -/

theorem target_endsIn : target.EndsIn (CharSet.one ')') := (endsIn_char ')').seq.seq

theorem image_framed : image.pattern.Framed (CharSet.one '!') (CharSet.one ')') where
  starts := image_startsIn
  closes := target_endsIn.seq.seq.seq.seq
  free := rfl

theorem inlineLink_framed : inlineLink.pattern.Framed (CharSet.one '[') (CharSet.one ')') where
  starts := inlineLink_startsIn
  closes := target_endsIn.seq.seq.seq
  free := rfl

theorem referenceLink_framed :
    referenceLink.pattern.Framed (CharSet.one '[') (CharSet.one ']') where
  starts := referenceLink_startsIn
  closes := (endsIn_char ']').seq.seq.seq.seq.seq
  free := rfl

theorem autolink_framed : autolink.pattern.Framed (CharSet.one '<') (CharSet.one '>') where
  starts := autolink_startsIn
  closes := (endsIn_char '>').seq.seq
  free := rfl

theorem htmlTag_framed : htmlTag.pattern.Framed (CharSet.one '<') (CharSet.one '>') where
  starts := htmlTag_startsIn
  closes := (endsIn_char '>').seq.seq.seq.seq
  free := rfl

theorem strongMarker_endsIn : strongMarker.EndsIn (CharSet.ofList ['*', '_']) := by
  have twice {x : Char} (mark : x ∈ ['*', '_']) :
      (seq (char x) (char x)).EndsIn (CharSet.ofList ['*', '_']) :=
    (endsIn_char x).seq.mono fun y same => by
      rw [beq_iff_eq.mp same]
      simpa [CharSet.ofList] using mark
  exact (twice (x := '*') (by simp)).alt (twice (x := '_') (by simp))

theorem strong_framed :
    strong.pattern.Framed (CharSet.ofList ['*', '_']) (CharSet.ofList ['*', '_']) where
  starts := strong_startsIn
  closes := strongMarker_endsIn.seq.seq
  free := rfl

theorem starEmphasis_framed : starEmphasis.pattern.Framed (CharSet.one '*') (CharSet.one '*') where
  starts := starEmphasis_startsIn
  closes := (endsIn_char '*').seq.seq
  free := rfl

theorem strikethrough_framed :
    strikethrough.pattern.Framed (CharSet.one '~') (CharSet.one '~') where
  starts := strikethrough_startsIn
  closes := (endsIn_char '~').seq.seq.seq
  free := rfl

/-! ### What is left of a line -/

/-- Every mark leaves out its own characters. -/
theorem shortens_of_mem {mark : InlineMark} (member : mark ∈ inlineMarks) :
    mark.pattern.Shortens mark.keep := by
  have all : ∀ mark ∈ inlineMarks, mark.pattern.isSimple = true ∧
      0 < mark.pattern.leastOutside ∧ mark.keep.Nodup := by decide
  obtain ⟨simple, outside, distinct⟩ := all mark member
  exact ⟨simple, outside, distinct⟩

theorem length_foldl_reduce_le {marks : List InlineMark}
    (known : ∀ mark ∈ marks, mark ∈ inlineMarks) (line : List Char) :
    (marks.foldl (fun line mark => mark.reduce line) line).length ≤ line.length := by
  induction marks generalizing line with
  | nil => exact Nat.le_refl _
  | cons mark marks ih =>
    obtain ⟨first, later⟩ := List.forall_mem_cons.mp known
    exact Nat.le_trans (ih later _) (length_replaceAll_le (shortens_of_mem first) line)

/-- Reducing marks one after the other keeps a line only if each of them keeps it. -/
theorem foldl_reduce_eq_self_iff {marks : List InlineMark}
    (known : ∀ mark ∈ marks, mark ∈ inlineMarks) (line : List Char) :
    marks.foldl (fun line mark => mark.reduce line) line = line ↔
      ∀ mark ∈ marks, mark.reduce line = line := by
  induction marks with
  | nil => simp
  | cons mark marks ih =>
    obtain ⟨first, later⟩ := List.forall_mem_cons.mp known
    rw [List.foldl_cons, List.forall_mem_cons, ← ih later]
    by_cases same : mark.reduce line = line
    · rw [same, eq_self_iff_true, true_and]
    · have short := Nat.lt_of_le_of_lt (length_foldl_reduce_le later (mark.reduce line))
        (length_replaceAll_lt (shortens_of_mem first) same)
      refine iff_of_false (fun whole => ?_) fun both => same both.1
      rw [whole] at short
      exact absurd short (Nat.lt_irrefl _)

/-- A line is kept exactly if no inline mark occurs in it. -/
theorem reduceInline_eq_self_iff (line : List Char) :
    reduceInline line = line ↔ ∀ mark ∈ inlineMarks, mark.pattern.found line = false := by
  rw [reduceInline, foldl_reduce_eq_self_iff fun mark member => member]
  exact forall₂_congr fun mark member => replaceAll_eq_self_iff (shortens_of_mem member) line

end DocLint.Markdown
