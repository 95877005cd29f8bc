import DocLint.Proofs.Markdown.FramedMarks
import DocLint.Proofs.Markdown.MarkedWords
import DocLint.Proofs.Markdown.UnderscoresBetween

/-!
# Code spans

A code span is unwrapped halfway through the inline marks. The marks before it see what the span
holds between its backticks, and those after it see it between the blanks around the span, so that
what it holds is reduced like a line of its own. The line keeps it only if no inline mark occurs in
it.
-/
namespace DocLint.Markdown

open Pattern

variable {mark : InlineMark} {first last : CharSet} {s : Site} {p q : Word} {c fence r : List Char}

/-- Two words and a text between them, set off by blanks and the same characters on both sides. -/
def between (p q : Word) (fence c : List Char) : List Char :=
  p.chars ++ ' ' :: (fence ++ (c ++ (fence ++ ' ' :: q.chars)))

theorem between_eq (p q : Word) (fence c : List Char) :
    between p q fence c = (p.chars ++ ' ' :: fence) ++ (c ++ (fence ++ ' ' :: q.chars)) := by
  simp [between]

theorem getLast?_between (p q : Word) (fence c : List Char) :
    (between p q fence c).getLast? = q.chars.getLast? := by
  have split : between p q fence c =
      (p.chars ++ ' ' :: (fence ++ (c ++ (fence ++ [' '])))) ++ q.chars := by
    simp [between]
  rw [split, List.getLast?_append_of_ne_nil _ q.some]

/-- A mark reduces the text between as it would alone if neither the words nor what sets the text
off can be part of an occurrence. -/
theorem reduce_between (framed : mark.pattern.Framed first last) (known : mark ∈ inlineMarks)
    (checked : ∀ n < 128, Unicode.isAsciiLetter (Char.ofNat n) = true →
      first (Char.ofNat n) = false ∧ last (Char.ofNat n) = false)
    (others : ∀ x ∈ ' ' :: fence, first x = false ∧ last x = false) (p q : Word) (c : List Char) :
    mark.reduce (between p q fence c) = between p q fence (mark.reduce c) := by
  have letters (x : Char) : Unicode.isAsciiLetter x = true → first x = false ∧ last x = false :=
    of_isAsciiLetter (P := fun x => first x = false ∧ last x = false) checked
  have before : ∀ x ∈ p.chars ++ ' ' :: fence, first x = false := by
    intro x inside
    rcases List.mem_append.mp inside with letter | other
    · exact (letters x (p.letters x letter)).1
    · exact (others x other).1
  have after : ∀ x ∈ fence ++ ' ' :: q.chars, first x = false ∧ last x = false := by
    intro x inside
    rcases List.mem_append.mp inside with other | later
    · exact others x (List.mem_cons_of_mem _ other)
    · rcases List.mem_cons.mp later with rfl | letter
      · exact others ' ' List.mem_cons_self
      · exact letters x (q.letters x letter)
  rw [between_eq, between_eq]
  exact replaceAll_within framed (shortens_of_mem known) before after c

theorem notMem_reduce {x : Char} (known : mark ∈ inlineMarks) (absent : x ∉ c) :
    x ∉ mark.reduce c :=
  fun inside => absent (mem_of_mem_replaceAll (shortens_of_mem known) inside)

/-! ### The span -/

theorem ends_backticks {c : Cursor} (rest : c.rest = '`' :: '`' :: r)
    (apart : r.head? ≠ Option.some '`') :
    (run (CharSet.one '`') 1 none true).ends c = [c.past ['`', '`'], c.past ['`']] := by
  have stops : ∀ x r', r = x :: r' → CharSet.one '`' x = false := by
    rintro x r' rfl
    rw [one_eq_false_iff]
    rintro rfl
    exact apart rfl
  have next : (c.toSite.past ['`']).rest = '`' :: r := Site.rest_past (u := ['`']) rest
  have step (s : Site) (r : List Char) (seen : List Site) :
      runSites (CharSet.one '`') none s ('`' :: r) seen =
        runSites (CharSet.one '`') none (s.after '`' r) r (s :: seen) := runSites_cons none '`' seen
  have sites : runSites (CharSet.one '`') none c.toSite c.rest [] =
      [c.toSite.past ['`', '`'], c.toSite.past ['`'], c.toSite] := by
    rw [rest, step, Site.after_eq_past rest, step, Site.after_eq_past next, Site.past_past,
      runSites_of_outside none _ stops]
    rfl
  rw [ends_run, runEnds, sites]
  rfl

/-- Where no backtick follows, no span is closed. -/
theorem ends_unclosed {c : Cursor} (absent : '`' ∉ c.rest) :
    (seq (group 1 (run (CharSet.except ['`']) 0 none true))
      (run (CharSet.one '`') 1 none true)).ends c = [] := by
  refine List.flatMap_eq_nil_iff.mpr fun d member => ?_
  obtain ⟨e, reached, rfl⟩ := List.mem_map.mp member
  obtain ⟨u, rest, -⟩ := of_mem_ends_run reached
  refine startsIn_run _ fun x r follows => one_eq_false_iff.mpr ?_
  rintro rfl
  have behind : e.rest = '`' :: r := follows
  exact absent (by rw [rest, behind]; simp)

/-- Two backticks before a text without any hold nothing: the second one closes the span. -/
theorem codeSpan_yields_of_empty (rest : s.rest = ['`', '`'] ++ r) (absent : '`' ∉ r) :
    codeSpan.pattern.Yields codeSpan.keep s ['`', '`'] [] := by
  have apart : r.head? ≠ Option.some '`' := fun head => absent (List.mem_of_head? head)
  have opened := Cursor.rest_past (c := .ofSite s) (u := ['`']) rest
  have behind := Cursor.rest_past (c := .ofSite s) rest
  have closed := Cursor.rest_holding (c := .ofSite s) (a := ['`']) (w := []) (b := []) rest
  refine yields_of_holding (a := ['`']) (w := []) (b := ['`']) ?_ rest
  calc codeSpan.pattern.ends (.ofSite s)
      = (seq (group 1 (run (CharSet.except ['`']) 0 none true))
          (run (CharSet.one '`') 1 none true)).ends ((Cursor.ofSite s).past ['`']) := by
        refine (congrArg (List.flatMap _) (ends_backticks (c := .ofSite s) rest apart)).trans ?_
        rw [List.flatMap_cons, List.flatMap_singleton]
        exact congrArg (· ++ _) (ends_unclosed (by rw [behind]; exact absent))
    _ = (run (CharSet.one '`') 1 none true).ends ((Cursor.ofSite s).holding ['`'] [] []) := by
        rw [ends_seq_group_run_until (w := []) startsIn_run opened (by simp) (Nat.zero_le _),
          Cursor.remember_past]
    _ = [(Cursor.ofSite s).holding ['`'] [] ['`']] := by
        rw [ends_backtick closed apart, Cursor.holding_past]
        rfl

theorem reduce_codeSpan (absent : '`' ∉ c) (p q : Word) :
    codeSpan.reduce (between p q ['`'] c) = between p q [] c := by
  have before : '`' ∉ p.chars ++ [' '] := by simpa using p.notMem (by decide)
  have after : '`' ∉ ' ' :: q.chars := by simpa using q.notMem (by decide)
  have span : codeSpan.pattern.Turns codeSpan.keep (['`'] ++ (c ++ ['`'])) c
      (' ' :: q.chars ++ []) := by
    refine .of_yields (fun s rest => ?_) (List.cons_ne_nil _ _)
    by_cases empty : c = []
    · subst empty
      exact codeSpan_yields_of_empty rest (by simpa using after)
    · exact codeSpan_yields (by simpa using rest) empty absent (by simp)
  have whole : codeSpan.pattern.Turns codeSpan.keep
      ((p.chars ++ [' ']) ++ ((['`'] ++ (c ++ ['`'])) ++ ' ' :: q.chars))
      ((p.chars ++ [' ']) ++ (c ++ ' ' :: q.chars)) [] :=
    .append (.of_notMem codeSpan_startsIn before)
      (.append span (.of_notMem codeSpan_startsIn after))
  have reduced := whole.replaceAll_eq codeSpan_startsIn
  rw [InlineMark.reduce]
  simpa [between] using reduced

/-! ### The line -/

def beforeSpans (line : List Char) : List Char :=
  htmlTag.reduce (autolink.reduce (referenceLink.reduce (inlineLink.reduce (image.reduce line))))

def afterSpans (line : List Char) : List Char :=
  strikethrough.reduce (underscoreEmphasis.reduce (starEmphasis.reduce (strong.reduce line)))

theorem reduceInline_eq (line : List Char) :
    reduceInline line = afterSpans (codeSpan.reduce (beforeSpans line)) := by
  simp only [reduceInline, inlineMarks, List.foldl_cons, List.foldl_nil, afterSpans, beforeSpans]

theorem beforeSpans_between (p q : Word) (c : List Char) :
    beforeSpans (between p q ['`'] c) = between p q ['`'] (beforeSpans c) := by
  rw [beforeSpans, reduce_between image_framed (by simp [inlineMarks]) (by decide)
      (forall_mem_of_all (by decide)),
    reduce_between inlineLink_framed (by simp [inlineMarks]) (by decide)
      (forall_mem_of_all (by decide)),
    reduce_between referenceLink_framed (by simp [inlineMarks]) (by decide)
      (forall_mem_of_all (by decide)),
    reduce_between autolink_framed (by simp [inlineMarks]) (by decide)
      (forall_mem_of_all (by decide)),
    reduce_between htmlTag_framed (by simp [inlineMarks]) (by decide)
      (forall_mem_of_all (by decide)), beforeSpans]

theorem notMem_beforeSpans {x : Char} (absent : x ∉ c) : x ∉ beforeSpans c :=
  notMem_reduce (by simp [inlineMarks]) (notMem_reduce (by simp [inlineMarks])
    (notMem_reduce (by simp [inlineMarks]) (notMem_reduce (by simp [inlineMarks])
      (notMem_reduce (by simp [inlineMarks]) absent))))

theorem afterSpans_between (p q : Word) (c : List Char) :
    afterSpans (between p q [] c) = between p q [] (afterSpans c) := by
  have underscores (c : List Char) :
      underscoreEmphasis.reduce (between p q [] c) = between p q [] (underscoreEmphasis.reduce c) :=
    reduce_underscores_between (p.notMem (by decide)) (q.notMem (by decide)) c
  rw [afterSpans, reduce_between strong_framed (by simp [inlineMarks]) (by decide)
      (forall_mem_of_all (by decide)),
    reduce_between starEmphasis_framed (by simp [inlineMarks]) (by decide)
      (forall_mem_of_all (by decide)),
    underscores,
    reduce_between strikethrough_framed (by simp [inlineMarks]) (by decide)
      (forall_mem_of_all (by decide)),
    afterSpans]

/-- What the span holds is reduced like a line of its own. -/
theorem reduceInline_between (absent : '`' ∉ c) (p q : Word) :
    reduceInline (between p q ['`'] c) = between p q [] (reduceInline c) := by
  have inner := notMem_beforeSpans absent
  calc reduceInline (between p q ['`'] c)
      = afterSpans (codeSpan.reduce (between p q ['`'] (beforeSpans c))) := by
        rw [reduceInline_eq, beforeSpans_between]
    _ = between p q [] (afterSpans (beforeSpans c)) := by
        rw [reduce_codeSpan inner, afterSpans_between]
    _ = between p q [] (reduceInline c) := by
        rw [reduceInline_eq, InlineMark.reduce_eq_self codeSpan_startsIn inner]

/-- A code span between two words is shown as what it holds, once the inline marks in it have been
reduced. So what it holds is shown as it is if and only if no inline mark occurs in it. -/
theorem toPlainText_codeSpan (p q : Word) (c : List Char) (unfenced : '`' ∉ c) (uncut : '|' ∉ c)
    (single : '\n' ∉ c) :
    toPlainText (String.ofList (between p q ['`'] c)) =
        String.ofList (between p q [] (reduceInline c)) ∧
      (toPlainText (String.ofList (between p q ['`'] c)) = String.ofList (between p q [] c) ↔
        ∀ mark ∈ inlineMarks, mark.pattern.found c = false) := by
  obtain ⟨x, front, eq, letter⟩ := p.exists_cons
  have split : between p q ['`'] c =
      x :: (front ++ ' ' :: '`' :: (c ++ '`' :: ' ' :: q.chars)) := by
    simp [between, eq]
  have plain (y : Char) (other : Unicode.isAsciiLetter y = false) (shown : y ≠ ' ' ∧ y ≠ '`')
      (absent : y ∉ c) : y ∉ between p q ['`'] c := by
    simp [between, p.notMem other, q.notMem other, shown, absent]
  have visible : ∀ y ∈ (between p q [] (reduceInline c)).getLast?, Text.isBlank y = false := by
    intro y final
    rw [getLast?_between] at final
    exact isBlank_of_isAsciiLetter (q.letters y (List.mem_of_getLast? final))
  have rendered := toPlainText_of_letter
    (r := front ++ ' ' :: '`' :: (c ++ '`' :: ' ' :: q.chars)) letter
    (split ▸ plain '|' (by decide) (by decide) uncut)
    (split ▸ plain '\n' (by decide) (by decide) single)
  rw [← split, reduceInline_between unfenced, Text.trimEnd_eq_self visible] at rendered
  refine ⟨rendered, ?_⟩
  rw [rendered, String.ofList_inj, ← reduceInline_eq_self_iff]
  simp [between]

/-- A single star in a code span is kept. -/
theorem toPlainText_codeSpan_keeps_star :
    ('`' ∉ ['a', '*', 'b'] ∧ '|' ∉ ['a', '*', 'b'] ∧ '\n' ∉ ['a', '*', 'b']) ∧
      toPlainText "p `a*b` q" = "p a*b q" := by
  have letter (c : Char) (letter : Unicode.isAsciiLetter c = true) :
      ∀ x ∈ [c], Unicode.isAsciiLetter x = true := List.forall_mem_singleton.mpr letter
  have unmarked : ∀ mark ∈ inlineMarks, mark.pattern.found ['a', '*', 'b'] = false := by decide
  exact ⟨by decide, (toPlainText_codeSpan ⟨['p'], by decide, letter 'p' rfl⟩
    ⟨['q'], by decide, letter 'q' rfl⟩ ['a', '*', 'b'] (by decide) (by decide)
    (by decide)).2.mpr unmarked⟩

/-- Stars in a code span are taken off. -/
theorem toPlainText_codeSpan_loses_stars :
    (∃ p q : Word, String.ofList (between p q ['`'] ['*', 'x', '*']) = "p `*x*` q" ∧
      String.ofList (between p q [] ['*', 'x', '*']) = "p *x* q") ∧
      toPlainText "p `*x*` q" = "p x q" := by
  have letter (c : Char) (letter : Unicode.isAsciiLetter c = true) :
      ∀ x ∈ [c], Unicode.isAsciiLetter x = true := List.forall_mem_singleton.mpr letter
  exact ⟨⟨⟨['p'], by decide, letter 'p' rfl⟩, ⟨['q'], by decide, letter 'q' rfl⟩, rfl, rfl⟩, rfl⟩

end DocLint.Markdown
