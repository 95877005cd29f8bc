import DocLint.Proofs.FrontMatter.RoundTrip
import DocLint.Proofs.Text.Returns
import DocLint.Registry
import Mathlib.Data.Option.Basic

/-!
# Line breaks of a document

A document does not depend on whether the lines of its file end with a line feed or with a carriage
return and a line feed: the marker, the line of dashes that closes the header and the fences are
found at the same lines, the plain text is the same, and the markdown differs in its line breaks
only.
-/
namespace DocLint

open Text (ReturnsAdded SameLine)

namespace FrontMatter

variable {s t : List Char}

/-- `b` is what is left of `t` when `t` is cut where `s` is cut to leave `a`. -/
def CutAlike (s t a b : List Char) : Prop :=
  ∃ front front', s = front ++ a ∧ t = front' ++ b ∧ ReturnsAdded front front' ∧ ReturnsAdded a b

namespace CutAlike

variable {a b : List Char}

theorem refl (added : ReturnsAdded s t) : CutAlike s t s t :=
  ⟨[], [], rfl, rfl, .nil, added⟩

theorem added (alike : CutAlike s t a b) : ReturnsAdded a b := by
  obtain ⟨-, -, -, -, -, added⟩ := alike
  exact added

theorem trans {c d : List Char} (first : CutAlike s t a b) (second : CutAlike a b c d) :
    CutAlike s t c d := by
  obtain ⟨front, front', rfl, rfl, fronts, -⟩ := first
  obtain ⟨next, next', rfl, rfl, nexts, rest⟩ := second
  exact ⟨front ++ next, front' ++ next', (List.append_assoc ..).symm, (List.append_assoc ..).symm,
    fronts.append nexts, rest⟩

theorem dropWhile {p : Char → Bool} (both : p '\r' = p '\n') (added : ReturnsAdded s t) :
    CutAlike s t (s.dropWhile p) (t.dropWhile p) :=
  ⟨s.takeWhile p, t.takeWhile p, List.takeWhile_append_dropWhile.symm,
    List.takeWhile_append_dropWhile.symm, added.span both⟩

end CutAlike

/-! ### The marker -/

theorem stripMarker_of_ne (unmarked : ∀ rest, s ≠ ['-', '-', '-'] ++ rest) : stripMarker s = s := by
  unfold stripMarker
  split
  case h_1 rest => exact absurd rfl (unmarked rest)
  case h_2 => rfl

theorem stripMarker_added (added : ReturnsAdded s t) :
    CutAlike s t (stripMarker s) (stripMarker t) := by
  by_cases marked : ∃ rest, s = ['-', '-', '-'] ++ rest
  · obtain ⟨rest, rfl⟩ := marked
    obtain ⟨rest', rfl, rests⟩ := added.of_start (by decide)
    have marker : CutAlike (['-', '-', '-'] ++ rest) (['-', '-', '-'] ++ rest') rest rest' :=
      ⟨_, _, rfl, rfl, .keep (by decide) (.keep (by decide) (.keep (by decide) .nil)), rests⟩
    obtain ⟨blanks, tail⟩ := rests.span (p := fun c => !isLineBreak c) rfl
    have tails := marker.trans (.dropWhile (p := fun c => !isLineBreak c) rfl rests)
    simp only [stripMarker, List.cons_append, List.nil_append, tail.isEmpty_eq,
      blanks.isBlankText_eq]
    split
    · exact tails.trans (.dropWhile rfl tail)
    · exact .refl added
  · have unmarked' : ∀ rest, t ≠ ['-', '-', '-'] ++ rest := by
      rintro rest rfl
      obtain ⟨rest', eq, -⟩ := added.start_of (by decide)
      exact marked ⟨rest', eq⟩
    rw [stripMarker_of_ne fun rest eq => marked ⟨rest, eq⟩, stripMarker_of_ne unmarked']
    exact .refl added

/-! ### The line of dashes -/

theorem isDashLine_eq_of_sameLine (same : SameLine s t) : isDashLine t = isDashLine s := by
  rw [← isDashLine_congr (Text.trim_chomp s), ← isDashLine_congr (Text.trim_chomp t), same.chomp_eq]

/-- Two lists that correspond element by element are cut at the same place by a predicate that
makes no difference between corresponding elements. -/
theorem forall₂_span {α : Type} {R : α → α → Prop} {p : α → Bool} {xs ys : List α}
    (both : ∀ a b, R a b → p b = p a) (each : List.Forall₂ R xs ys) :
    List.Forall₂ R (xs.takeWhile p) (ys.takeWhile p) ∧
      List.Forall₂ R (xs.dropWhile p) (ys.dropWhile p) := by
  induction each with
  | nil => exact ⟨.nil, .nil⟩
  | @cons a b xs ys first rest ih =>
    rw [List.takeWhile_cons, List.takeWhile_cons, List.dropWhile_cons, List.dropWhile_cons,
      both a b first]
    split
    · exact ⟨.cons first ih.1, ih.2⟩
    · exact ⟨.nil, .cons first rest⟩

/-- Lines that correspond make up texts that correspond. -/
theorem flatten_added {xs ys : List (List Char)} (each : List.Forall₂ SameLine xs ys) :
    ReturnsAdded xs.flatten ys.flatten :=
  ReturnsAdded.flatten (each.imp fun _ _ same => same.added)

/-- A text consists of the lines in front of its first line of dashes and the others. -/
theorem eq_flatten_append (text : List Char) :
    text = ((Text.splitAfter (· == '\n') text).takeWhile fun line => !isDashLine line).flatten ++
      ((Text.splitAfter (· == '\n') text).dropWhile fun line => !isDashLine line).flatten := by
  rw [← List.flatten_append, List.takeWhile_append_dropWhile, Text.flatten_splitAfter]

/-- Both texts are cut at the same line of dashes, or neither has one. -/
theorem cut?_added (added : ReturnsAdded s t) :
    Option.Rel (fun parts parts' => ReturnsAdded parts.header parts'.header ∧
      CutAlike s t parts.body parts'.body) (cut? s) (cut? t) := by
  obtain ⟨headers, bodies⟩ := forall₂_span (p := fun line => !isDashLine line)
    (fun _ _ same => by rw [isDashLine_eq_of_sameLine same]) added.splitAfter
  have header := flatten_added headers
  have wholeS := eq_flatten_append s
  have wholeT := eq_flatten_append t
  rw [cut?, cut?]
  generalize List.dropWhile (fun line => !isDashLine line) (Text.splitAfter (· == '\n') s) = xs
    at bodies wholeS ⊢
  generalize List.dropWhile (fun line => !isDashLine line) (Text.splitAfter (· == '\n') t) = ys
    at bodies wholeT ⊢
  cases bodies with
  | nil => exact .none
  | cons dashes rest =>
    rw [List.flatten_cons, ← List.append_assoc] at wholeS wholeT
    exact .some ⟨header, _, _, wholeS, wholeT, header.append dashes.added, flatten_added rest⟩

/-! ### The properties -/

/-- A reader of headers that does not mind carriage returns in front of line feeds, except for what
it says about a header that it rejects. -/
def IgnoresReturns {ε : Type} (read : String → Except ε Json) : Prop :=
  ∀ h h' : String, ReturnsAdded h.toList h'.toList → (read h).toOption = (read h').toOption

/-- Both texts have the same properties and corresponding bodies, or a header that is rejected. -/
theorem split_added {ε : Type} {read : String → Except ε Json} (ignores : IgnoresReturns read)
    (added : ReturnsAdded s t) :
    Option.Rel (fun parts parts' => parts.1 = parts'.1 ∧ CutAlike s t parts.2 parts'.2)
      (split read s).toOption (split read t).toOption := by
  have stripped := stripMarker_added added
  have cuts := cut?_added stripped.added
  rw [split, split]
  generalize cut? (stripMarker s) = parts at cuts ⊢
  generalize cut? (stripMarker t) = parts' at cuts ⊢
  cases cuts with
  | none => exact .some ⟨rfl, stripped⟩
  | @some parts parts' alike =>
    obtain ⟨headers, bodies⟩ := alike
    have bodies := stripped.trans bodies
    dsimp only
    rw [headers.isBlankText_eq]
    split
    case isTrue => exact .some ⟨rfl, bodies⟩
    case isFalse =>
      have same := ignores (String.ofList parts.header) (String.ofList parts'.header)
        (by rwa [String.toList_ofList, String.toList_ofList])
      generalize read (String.ofList parts.header) = first at same ⊢
      generalize read (String.ofList parts'.header) = second at same ⊢
      cases first with
      | error reason =>
        cases second with
        | error reason' => exact .none
        | ok value => cases same
      | ok value =>
        cases second with
        | error reason => cases same
        | ok value' =>
          cases same
          cases value with
          | object properties => exact .some ⟨rfl, bodies⟩
          | null => exact .some ⟨rfl, bodies⟩
          | bool value => exact .some ⟨rfl, stripped⟩
          | number value => exact .some ⟨rfl, stripped⟩
          | string value => exact .some ⟨rfl, stripped⟩
          | array items => exact .some ⟨rfl, stripped⟩

end FrontMatter

structure Document.SameReading (d d' : Document) : Prop where
  file : d.file = d'.file
  properties : d.properties = d'.properties
  text : d.text = d'.text
  lines : d.lines = d'.lines

/-- A rule that reads the path, the properties, the text and the lines of a document only. -/
def Rule.IgnoresMarkdown (rule : Rule) : Prop :=
  ∀ files settings d d', Document.SameReading d d' →
    rule.check files d settings = rule.check files d' settings

/-- No built-in rule looks at the markdown. -/
theorem Registry.ignoresMarkdown_of_builtin (now : Calendar.Instant) :
    ∀ rule ∈ (Registry.builtin now).rules, rule.IgnoresMarkdown := by
  intro rule member files settings d d' same
  obtain ⟨file, properties, markdown, text, lines⟩ := d
  obtain ⟨file', properties', markdown', text', lines'⟩ := d'
  obtain ⟨rfl, rfl, rfl, rfl⟩ := same
  rcases mem_foldl_insert member with builtin | none
  · simp only [List.mem_cons, List.not_mem_nil, or_false] at builtin
    rcases builtin with rfl | rfl | rfl | rfl | rfl <;> rfl
  · cases none

namespace Document

open FrontMatter

theorem sameReading_ofParts {a b : List Char} (added : ReturnsAdded a b) (file : String)
    (properties : Fields) : SameReading (ofParts file properties (String.ofList a))
      (ofParts file properties (String.ofList b)) := by
  have text : Markdown.toPlainText (String.ofList a) = Markdown.toPlainText (String.ofList b) := by
    rw [Markdown.toPlainText, Markdown.toPlainText, Markdown.renderedLines, Markdown.renderedLines,
      String.toList_ofList, String.toList_ofList, added.lines_eq]
  exact ⟨rfl, rfl, text, by simp only [ofParts, text]⟩

/-- A text without carriage returns and the same text with carriage returns in front of some of its
line feeds either both are documents or both are none. The documents have the same properties, text
and lines, and their markdown starts at the same place; so no rule that does without the markdown
tells them apart. -/
theorem parse_of_returns {s t : String} (added : ReturnsAdded s.toList t.toList)
    {read : String → Except String Json} (ignores : IgnoresReturns read) (file : String) :
    (parse read file s).toBool = (parse read file t).toBool ∧
    ∀ d d', parse read file s = .ok d → parse read file t = .ok d' →
      d.properties = d'.properties ∧ d.text = d'.text ∧ d.lines = d'.lines ∧
      CutAlike s.toList t.toList d.markdown.toList d'.markdown.toList ∧
      ∀ rule : Rule, rule.IgnoresMarkdown → ∀ files settings,
        rule.check files d settings = rule.check files d' settings := by
  have parts := split_added ignores added
  rw [parse, parse]
  generalize split read s.toList = first at parts ⊢
  generalize split read t.toList = second at parts ⊢
  cases first with
  | error reason =>
    cases second with
    | error reason' =>
      refine ⟨rfl, ?_⟩
      rintro d d' ⟨⟩
    | ok parts' => cases parts
  | ok parts₁ =>
    cases second with
    | error reason => cases parts
    | ok parts₂ =>
      obtain ⟨properties, body⟩ := parts₁
      obtain ⟨properties', body'⟩ := parts₂
      cases parts with
      | some alike =>
        obtain ⟨rfl, bodies⟩ := alike
        have same := sameReading_ofParts bodies.added file properties
        refine ⟨rfl, ?_⟩
        rintro d d' ⟨⟩ ⟨⟩
        refine ⟨same.properties, same.text, same.lines, ?_, fun rule ignores files settings =>
          ignores files settings _ _ same⟩
        simpa [ofParts] using bodies

/-- The number of one field, whatever the line break after it, or a fault that shows the header. -/
private def readAnyBreak (header : String) : Except String Json :=
  if header.toList.filter (· != '\r') = "a: 1\n".toList then
    .ok (.object [("a", .number (.integer 1))])
  else .error header

private theorem ignoresReturns_readAnyBreak : IgnoresReturns readAnyBreak := by
  intro h h' added
  have same := added.filter_eq
  have unchanged : h.toList.filter (· != '\r') = h.toList := by
    rw [← same, List.filter_filter]
    simp
  rw [readAnyBreak, readAnyBreak, same, unchanged]
  split <;> rfl

/-- The marker, the header, the line of dashes, the fences and the prose end in different ways, and
no built-in rule minds. -/
theorem parse_of_mixed_returns :
    IgnoresReturns readAnyBreak ∧
    ReturnsAdded "---\na: 1\n---\nb\n```\nc\n```\n".toList
      "---\r\na: 1\n---\r\nb\n```\r\nc\r\n```\n".toList ∧
    ∃ d d', parse readAnyBreak "x" "---\na: 1\n---\nb\n```\nc\n```\n" = .ok d ∧
      parse readAnyBreak "x" "---\r\na: 1\n---\r\nb\n```\r\nc\r\n```\n" = .ok d' ∧
      d.markdown = "b\n```\nc\n```\n" ∧ d'.markdown = "b\n```\r\nc\r\n```\n" ∧
      d.properties = [("a", .number (.integer 1))] ∧
      d.properties = d'.properties ∧ d.text = d'.text ∧ d.lines = d'.lines ∧
      ∀ now, ∀ rule ∈ (Registry.builtin now).rules, ∀ files settings,
        rule.check files d settings = rule.check files d' settings := by
  have added : ReturnsAdded "---\na: 1\n---\nb\n```\nc\n```\n".toList
      "---\r\na: 1\n---\r\nb\n```\r\nc\r\n```\n".toList := by
    simp only [String.reduceToList]
    repeat' first | exact .nil | refine .keep (by decide) ?_ | refine .add ?_
  obtain ⟨-, same⟩ := parse_of_returns added ignoresReturns_readAnyBreak "x"
  have first : parse readAnyBreak "x" "---\na: 1\n---\nb\n```\nc\n```\n" =
      .ok (ofParts "x" [("a", .number (.integer 1))] "b\n```\nc\n```\n") := by
    have cut : split readAnyBreak "---\na: 1\n---\nb\n```\nc\n```\n".toList =
        .ok ([("a", .number (.integer 1))], "b\n```\nc\n```\n".toList) := rfl
    rw [parse, cut]
    simp only [String.ofList_toList]
  have second : parse readAnyBreak "x" "---\r\na: 1\n---\r\nb\n```\r\nc\r\n```\n" =
      .ok (ofParts "x" [("a", .number (.integer 1))] "b\n```\r\nc\r\n```\n") := by
    have cut : split readAnyBreak "---\r\na: 1\n---\r\nb\n```\r\nc\r\n```\n".toList =
        .ok ([("a", .number (.integer 1))], "b\n```\r\nc\r\n```\n".toList) := rfl
    rw [parse, cut]
    simp only [String.ofList_toList]
  obtain ⟨properties, text, lines, -, outcomes⟩ := same _ _ first second
  refine ⟨ignoresReturns_readAnyBreak, added, _, _, first, second, rfl, rfl, rfl, properties, text,
    lines, fun now rule member => ?_⟩
  exact outcomes rule (Registry.ignoresMarkdown_of_builtin now rule member)

end Document
end DocLint
