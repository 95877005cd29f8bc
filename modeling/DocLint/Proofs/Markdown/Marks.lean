import DocLint.Markdown.Inline
import DocLint.Proofs.Pattern.Replacing

/-!
# Occurrences of inline marks

What each inline mark can start with, and what stands for its plain occurrences: those whose parts
hold no character that could end them early. Where a mark cannot occur the text is kept.
-/
namespace DocLint.Pattern

variable {c base : Cursor} {p q : Pattern} {w r : List Char} {x : Char} {least index : Nat}

@[simp] theorem except_eq_true_iff {cs : List Char} : CharSet.except cs x = true ↔ x ∉ cs := by
  simp [CharSet.except, CharSet.ofList, CharSet.others]

@[simp] theorem except_eq_false_iff {cs : List Char} : CharSet.except cs x = false ↔ x ∈ cs := by
  simp [CharSet.except, CharSet.ofList, CharSet.others]

@[simp] theorem one_eq_false_iff {y : Char} : CharSet.one x y = false ↔ y ≠ x := by
  simp [CharSet.one]

@[simp] theorem ofList_eq_false_iff {cs : List Char} : CharSet.ofList cs x = false ↔ x ∉ cs := by
  simp [CharSet.ofList]

theorem except_of_mem (inside : x ∉ w) : ∀ y ∈ w, CharSet.except [x] y = true := by
  intro y member
  rw [except_eq_true_iff, List.mem_singleton]
  rintro rfl
  exact inside member

theorem except_stops : ∀ y r', x :: r = y :: r' → CharSet.except [x] y = false := by
  rintro y r' ⟨⟩
  simp

/-- A run up to the character that has to come next. -/
theorem ends_seq_run_until (starts : q.StartsIn (CharSet.one x)) (rest : c.rest = w ++ x :: r)
    (inside : x ∉ w) (enough : least ≤ w.length) :
    (seq (run (CharSet.except [x]) least none true) q).ends c = q.ends (c.past w) := by
  rw [ends_seq_run starts (by simp) rest (except_of_mem inside) except_stops, if_pos enough]

theorem ends_seq_group_run_until (starts : q.StartsIn (CharSet.one x))
    (rest : c.rest = w ++ x :: r) (inside : x ∉ w) (enough : least ≤ w.length) :
    (seq (group index (run (CharSet.except [x]) least none true)) q).ends c =
      q.ends (c.remember index (c.past w)) := by
  rw [ends_seq_group_run starts (by simp) rest (except_of_mem inside) except_stops,
    if_pos enough]

end DocLint.Pattern

namespace DocLint.Markdown

open Pattern

variable {s : Site} {c : Cursor} {w u r : List Char}

/-- A text without the character that a mark starts with is kept. -/
theorem InlineMark.reduce_eq_self {mark : InlineMark} {x : Char}
    (starts : mark.pattern.StartsIn (CharSet.one x)) (absent : x ∉ u) : mark.reduce u = u :=
  (Turns.of_notMem starts absent).replaceAll_eq starts

/-! ### Links and images -/

theorem ends_target (rest : c.rest = '(' :: (u ++ ')' :: r)) (inside : ')' ∉ u) :
    target.ends c = [c.past ('(' :: (u ++ [')']))] := by
  have opened := Cursor.rest_past (u := ['(']) rest
  calc target.ends c
      = (seq (run (CharSet.except [')']) 0 none true) (char ')')).ends (c.past ['(']) :=
        ends_seq_char rest
    _ = (char ')').ends ((c.past ['(']).past u) :=
        ends_seq_run_until (startsIn_char ')') opened inside (Nat.zero_le _)
    _ = [c.past ('(' :: (u ++ [')']))] := by
        rw [ends_char (Cursor.rest_past opened), Cursor.past_past, Cursor.past_past]
        rfl

/-- A text in brackets that a group holds, after what was passed. -/
theorem ends_bracketed {q : Pattern} {a : List Char} {least : Nat}
    (rest : c.rest = a ++ '[' :: (w ++ ']' :: r)) (inside : ']' ∉ w) (enough : least ≤ w.length) :
    (seq (char '[') (seq (group 1 (run (CharSet.except [']']) least none true))
      (seq (char ']') q))).ends (c.past a) = q.ends (c.holding (a ++ ['[']) w [']']) := by
  have before := Cursor.rest_past rest
  have opened := Cursor.rest_past (u := ['[']) before
  rw [ends_seq_char before,
    ends_seq_group_run_until (startsIn_char ']').seq opened inside enough, Cursor.past_past,
    Cursor.remember_past, ends_seq_char, Cursor.holding_past]
  · rfl
  · exact Cursor.rest_holding (b := []) (by simpa using rest)

/-- A text in brackets and a target, after what was passed. -/
theorem ends_bracketed_target {a : List Char}
    (rest : c.rest = a ++ '[' :: (w ++ ']' :: '(' :: (u ++ ')' :: r))) (inside : ']' ∉ w)
    (inner : ')' ∉ u) :
    inlineLink.pattern.ends (c.past a) =
      [c.holding (a ++ ['[']) w (']' :: '(' :: (u ++ [')']))] := by
  have closed : (c.holding (a ++ ['[']) w [']']).rest = '(' :: (u ++ ')' :: r) :=
    Cursor.rest_holding (by simpa using rest)
  calc inlineLink.pattern.ends (c.past a)
      = target.ends (c.holding (a ++ ['[']) w [']']) := ends_bracketed rest inside (Nat.zero_le _)
    _ = [c.holding (a ++ ['[']) w (']' :: '(' :: (u ++ [')']))] := by
        rw [ends_target closed inner, Cursor.holding_past]
        rfl

theorem image_startsIn : image.pattern.StartsIn (CharSet.one '!') := (startsIn_char '!').seq

theorem image_yields (rest : s.rest = ['!', '['] ++ (w ++ (']' :: '(' :: (u ++ [')']) ++ r)))
    (inside : ']' ∉ w) (inner : ')' ∉ u) :
    image.pattern.Yields image.keep s (['!', '['] ++ (w ++ (']' :: '(' :: (u ++ [')'])))) w := by
  have rest' : (Cursor.ofSite s).rest = ['!'] ++ '[' :: (w ++ ']' :: '(' :: (u ++ ')' :: r)) := by
    simpa using rest
  refine yields_of_holding ?_ rest
  calc image.pattern.ends (.ofSite s)
      = inlineLink.pattern.ends ((Cursor.ofSite s).past ['!']) := ends_seq_char rest'
    _ = [(Cursor.ofSite s).holding ['!', '['] w (']' :: '(' :: (u ++ [')']))] :=
        ends_bracketed_target rest' inside inner

theorem inlineLink_startsIn : inlineLink.pattern.StartsIn (CharSet.one '[') :=
  (startsIn_char '[').seq

theorem inlineLink_yields (rest : s.rest = ['['] ++ (w ++ (']' :: '(' :: (u ++ [')']) ++ r)))
    (inside : ']' ∉ w) (inner : ')' ∉ u) :
    inlineLink.pattern.Yields inlineLink.keep s (['['] ++ (w ++ (']' :: '(' :: (u ++ [')']))))
      w := by
  refine yields_of_holding ?_ rest
  have ended := ends_bracketed_target (c := .ofSite s) (a := []) (r := r) (by simpa using rest)
    inside inner
  rwa [Cursor.past_nil] at ended

/-- Brackets that no target follows are no link. -/
theorem inlineLink_nothing (rest : s.rest = '[' :: (w ++ ']' :: r)) (inside : ']' ∉ w)
    (apart : r.head? ≠ some '(') : inlineLink.pattern.matchAt? s = none := by
  rw [matchAt?_eq_none_iff]
  have ended := ends_bracketed (c := .ofSite s) (a := []) (q := target) rest inside
    (Nat.zero_le w.length)
  rw [Cursor.past_nil] at ended
  refine Eq.trans ended ((startsIn_char '(').seq _ fun x r' follows => ?_)
  have closed : ((Cursor.ofSite s).holding ['['] w [']']).rest = r :=
    Cursor.rest_holding (by simpa using rest)
  rw [List.nil_append, closed] at follows
  rw [one_eq_false_iff]
  rintro rfl
  exact apart (by rw [follows]; rfl)

theorem referenceLink_startsIn : referenceLink.pattern.StartsIn (CharSet.one '[') :=
  (startsIn_char '[').seq

theorem referenceLink_yields (rest : s.rest = ['['] ++ (w ++ (']' :: '[' :: (u ++ [']']) ++ r)))
    (some : w ≠ []) (inside : ']' ∉ w) (inner : ']' ∉ u) :
    referenceLink.pattern.Yields referenceLink.keep s
      (['['] ++ (w ++ (']' :: '[' :: (u ++ [']'])))) w := by
  refine yields_of_holding ?_ rest
  let label : Pattern :=
    seq (char '[') (seq (run (CharSet.except [']']) 0 none true) (char ']'))
  have ended := ends_bracketed (c := .ofSite s) (a := []) (q := label)
    (r := '[' :: (u ++ ']' :: r)) (by simpa using rest) inside (List.length_pos_iff.mpr some)
  have closed : ((Cursor.ofSite s).holding ['['] w [']']).rest = '[' :: (u ++ ']' :: r) :=
    Cursor.rest_holding (by simpa using rest)
  have opened := Cursor.rest_past (u := ['[']) closed
  rw [Cursor.past_nil] at ended
  calc referenceLink.pattern.ends (.ofSite s)
      = label.ends ((Cursor.ofSite s).holding ['['] w [']']) := ended
    _ = [(Cursor.ofSite s).holding ['['] w (']' :: '[' :: (u ++ [']']))] := by
        rw [ends_seq_char closed, ends_seq_run_until (startsIn_char ']') opened inner
          (Nat.zero_le _), ends_char (Cursor.rest_past opened)]
        simp [Cursor.holding_past]

/-! ### Tags -/

theorem autolink_startsIn : autolink.pattern.StartsIn (CharSet.one '<') := (startsIn_char '<').seq

theorem autolink_nothing {x : Char} (rest : s.rest = '<' :: x :: r) (web : x ≠ 'h')
    (mail : x ≠ 'm') : autolink.pattern.matchAt? s = none := by
  have starts : (alt (sequence [literal "http", optional (CharSet.one 's')])
      (literal "mailto")).StartsIn ((CharSet.one 'h').union (CharSet.one 'm')) :=
    (startsIn_char 'h').seq.seq.alt (startsIn_char 'm').seq
  rw [matchAt?_eq_none_iff]
  refine Eq.trans (ends_seq_char (c := .ofSite s) rest) ?_
  exact starts.seq.group.seq.ends_eq_nil (Cursor.rest_past (c := .ofSite s) (u := ['<']) rest)
    (by simp [CharSet.union, CharSet.one, web, mail])

theorem htmlTag_startsIn : htmlTag.pattern.StartsIn (CharSet.one '<') := (startsIn_char '<').seq

/-- The name of a tag up to its end. -/
theorem ends_tagName {x : Char} (rest : c.rest = x :: (u ++ '>' :: r))
    (letter : Unicode.isAsciiLetter x = true) (inside : '>' ∉ u) :
    (seq (oneOf Unicode.isAsciiLetter)
      (seq (run (CharSet.except ['>']) 0 none true) (char '>'))).ends c =
        [c.past (x :: (u ++ ['>']))] := by
  have named := Cursor.rest_past (u := [x]) rest
  rw [ends_seq_oneOf rest letter,
    ends_seq_run_until (startsIn_char '>') named inside (Nat.zero_le _),
    ends_char (Cursor.rest_past named), Cursor.past_past, Cursor.past_past]
  rfl

theorem htmlTag_yields_opening {x : Char} (rest : s.rest = '<' :: x :: (u ++ '>' :: r))
    (letter : Unicode.isAsciiLetter x = true) (inside : '>' ∉ u) :
    htmlTag.pattern.Yields htmlTag.keep s ('<' :: x :: (u ++ ['>'])) [] := by
  have opened := Cursor.rest_past (c := .ofSite s) (u := ['<']) rest
  have noSlash : CharSet.one '/' x = false := by
    rw [one_eq_false_iff]
    rintro rfl
    exact absurd letter (by decide)
  refine yields_of_ends (e := (Cursor.ofSite s).past ('<' :: x :: (u ++ ['>']))) ?_ rfl rfl
  calc htmlTag.pattern.ends (.ofSite s)
      = (seq (optional (CharSet.one '/')) (seq (oneOf Unicode.isAsciiLetter)
          (seq (run (CharSet.except ['>']) 0 none true) (char '>')))).ends
            ((Cursor.ofSite s).past ['<']) := ends_seq_char (c := .ofSite s) rest
    _ = (seq (oneOf Unicode.isAsciiLetter)
          (seq (run (CharSet.except ['>']) 0 none true) (char '>'))).ends
            ((Cursor.ofSite s).past ['<']) := by
        rw [ends_seq, Pattern.optional, runEnds_of_outside, if_pos rfl, List.flatMap_singleton]
        intro y r' same
        rw [opened] at same
        cases same
        exact noSlash
    _ = [(Cursor.ofSite s).past ('<' :: x :: (u ++ ['>']))] := by
        rw [ends_tagName opened letter inside, Cursor.past_past]
        rfl

theorem htmlTag_yields_closing {x : Char} (rest : s.rest = '<' :: '/' :: x :: (u ++ '>' :: r))
    (letter : Unicode.isAsciiLetter x = true) (inside : '>' ∉ u) :
    htmlTag.pattern.Yields htmlTag.keep s ('<' :: '/' :: x :: (u ++ ['>'])) [] := by
  have opened := Cursor.rest_past (c := .ofSite s) (u := ['<']) rest
  have slashed := Cursor.rest_past (u := ['/']) opened
  refine yields_of_ends (e := (Cursor.ofSite s).past ('<' :: '/' :: x :: (u ++ ['>']))) ?_ rfl rfl
  calc htmlTag.pattern.ends (.ofSite s)
      = (seq (optional (CharSet.one '/')) (seq (oneOf Unicode.isAsciiLetter)
          (seq (run (CharSet.except ['>']) 0 none true) (char '>')))).ends
            ((Cursor.ofSite s).past ['<']) := ends_seq_char (c := .ofSite s) rest
    _ = (seq (oneOf Unicode.isAsciiLetter)
          (seq (run (CharSet.except ['>']) 0 none true) (char '>'))).ends
            (((Cursor.ofSite s).past ['<']).past ['/']) :=
        ends_seq_optional (startsIn_oneOf _).seq (by decide) opened (by simp [CharSet.one])
    _ = [(Cursor.ofSite s).past ('<' :: '/' :: x :: (u ++ ['>']))] := by
        rw [ends_tagName slashed letter inside, Cursor.past_past, Cursor.past_past]
        rfl

/-! ### Code spans -/

theorem codeSpan_startsIn : codeSpan.pattern.StartsIn (CharSet.one '`') := startsIn_run.seq

/-- A single backtick. -/
theorem ends_backtick (rest : c.rest = '`' :: r) (apart : r.head? ≠ some '`') :
    (run (CharSet.one '`') 1 none true).ends c = [c.past ['`']] := by
  refine ends_run_of_length (w := ['`']) rest (by simp [CharSet.one]) fun x r' same => ?_
  rw [one_eq_false_iff]
  rintro rfl
  exact apart (by rw [same]; rfl)

theorem codeSpan_yields (rest : s.rest = ['`'] ++ (w ++ (['`'] ++ r))) (some : w ≠ [])
    (inside : '`' ∉ w) (apart : r.head? ≠ Option.some '`') :
    codeSpan.pattern.Yields codeSpan.keep s (['`'] ++ (w ++ ['`'])) w := by
  have opened := Cursor.rest_past (c := .ofSite s) (u := ['`']) rest
  have closed := Cursor.rest_holding (c := .ofSite s) (b := []) rest
  have first : (w ++ (['`'] ++ r)).head? ≠ Option.some '`' := by
    obtain ⟨x, w, rfl⟩ := List.exists_cons_of_ne_nil some
    rintro ⟨⟩
    exact inside List.mem_cons_self
  refine yields_of_holding ?_ rest
  calc codeSpan.pattern.ends (.ofSite s)
      = (seq (group 1 (run (CharSet.except ['`']) 0 none true))
          (run (CharSet.one '`') 1 none true)).ends ((Cursor.ofSite s).past ['`']) :=
        ends_seq_of_single (ends_backtick (c := .ofSite s) rest first)
    _ = (run (CharSet.one '`') 1 none true).ends ((Cursor.ofSite s).holding ['`'] w []) := by
        rw [ends_seq_group_run_until startsIn_run opened inside (Nat.zero_le _),
          Cursor.remember_past]
    _ = [(Cursor.ofSite s).holding ['`'] w ['`']] := by
        rw [ends_backtick closed apart, Cursor.holding_past]
        rfl

end DocLint.Markdown
