import DocLint.Proofs.Markdown.Emphasis
import DocLint.Proofs.Markdown.SingleLine
import Mathlib.Data.List.TakeWhile

/-!
# Identifiers

Letters, digits and underscores occur in identifiers. A line of identifiers is rendered as it is,
unless somewhere two double underscores stand around a text without underscores: the mark of strong
text takes no notice of the words around it, so it takes such pairs off. Nothing but underscores is
ever lost.
-/
namespace DocLint.Markdown

open Pattern

variable {x : Char} {u v r t out : List Char} {s : Site}

/-! ### Pairs of double underscores -/

def StartsPaired (u : List Char) : Prop :=
  ∃ t r, u = ['_', '_'] ++ (t ++ (['_', '_'] ++ r)) ∧ t ≠ [] ∧ '_' ∉ t

/-- Somewhere in a text double underscores stand around a text without underscores. -/
def HasPair (u : List Char) : Prop := ∃ p r, u = p ++ r ∧ StartsPaired r

/-- How pairs of double underscores are taken off a text, from left to right. -/
inductive Unpaired : List Char → List Char → Prop
  | nil : Unpaired [] []
  | keep {x : Char} {u v : List Char} (single : ¬ StartsPaired (x :: u)) (later : Unpaired u v) :
      Unpaired (x :: u) (x :: v)
  | pair {t u v : List Char} (some : t ≠ []) (inside : '_' ∉ t) (later : Unpaired u v) :
      Unpaired (['_', '_'] ++ (t ++ (['_', '_'] ++ u))) (t ++ v)

theorem hasPair_cons_iff : HasPair (x :: u) ↔ StartsPaired (x :: u) ∨ HasPair u := by
  constructor
  · rintro ⟨p, r, split, paired⟩
    cases p with
    | nil => exact .inl (split ▸ paired)
    | cons y p =>
      cases split
      exact .inr ⟨p, r, rfl, paired⟩
  · rintro (paired | ⟨p, r, rfl, paired⟩)
    · exact ⟨[], _, rfl, paired⟩
    · exact ⟨x :: p, r, rfl, paired⟩

theorem exists_unpaired (u : List Char) : ∃ v, Unpaired u v := by
  induction length : u.length using Nat.strong_induction_on generalizing u with
  | _ n ih =>
    subst length
    by_cases paired : StartsPaired u
    · obtain ⟨t, r, rfl, some, inside⟩ := paired
      obtain ⟨v, later⟩ := ih r.length (by simp; omega) r rfl
      exact ⟨t ++ v, .pair some inside later⟩
    · cases u with
      | nil => exact ⟨[], .nil⟩
      | cons x u =>
        obtain ⟨v, later⟩ := ih u.length (by simp) u rfl
        exact ⟨x :: v, .keep paired later⟩

theorem Unpaired.length_le (unpaired : Unpaired u v) : v.length ≤ u.length := by
  induction unpaired with
  | nil => exact Nat.le_refl _
  | keep _ _ ih => simpa using ih
  | pair _ _ _ ih => simp; omega

theorem Unpaired.eq_self_iff (unpaired : Unpaired u v) : v = u ↔ ¬ HasPair u := by
  induction unpaired with
  | nil =>
    refine iff_of_true rfl ?_
    rintro ⟨p, r, split, t, r', rfl, -⟩
    simp at split
  | @keep x u v single _ ih =>
    rw [hasPair_cons_iff, not_or, ← ih]
    simp [single]
  | @pair t u v some inside later _ =>
    refine iff_of_false (fun same => ?_) fun none => none ⟨[], _, rfl, t, u, rfl, some, inside⟩
    have le := later.length_le
    have longer := congrArg List.length same
    simp at longer
    omega

inductive Thinned : List Char → List Char → Prop
  | nil : Thinned [] []
  | keep (x : Char) {u v : List Char} (later : Thinned u v) : Thinned (x :: u) (x :: v)
  | drop {u v : List Char} (later : Thinned u v) : Thinned ('_' :: u) v

namespace Thinned

theorem append_left (t : List Char) (thinned : Thinned u v) : Thinned (t ++ u) (t ++ v) := by
  induction t with
  | nil => exact thinned
  | cons x t ih => exact .keep x ih

theorem mem (thinned : Thinned u v) (inside : x ∈ v) : x ∈ u := by
  induction thinned with
  | nil => exact inside
  | keep y _ ih =>
    rcases List.mem_cons.mp inside with rfl | later
    · exact List.mem_cons_self
    · exact List.mem_cons_of_mem y (ih later)
  | drop _ ih => exact List.mem_cons_of_mem _ (ih inside)

theorem filter_eq (thinned : Thinned u v) : v.filter (· ≠ '_') = u.filter (· ≠ '_') := by
  induction thinned with
  | nil => rfl
  | keep _ _ ih => simp only [List.filter_cons, ih]
  | drop _ ih => simpa using ih

theorem head? (thinned : Thinned u v) (first : u.head? = some x) (other : x ≠ '_') :
    v.head? = some x := by
  cases thinned with
  | nil => exact first
  | keep y _ => exact first
  | drop _ => exact absurd (Option.some.inj first).symm other

theorem eq_nil (thinned : Thinned [] v) : v = [] := by
  cases thinned
  rfl

theorem getLast? (thinned : Thinned u v) (last : u.getLast? = some x) (other : x ≠ '_') :
    v.getLast? = some x := by
  induction thinned with
  | nil => exact last
  | @keep y u v later ih =>
    cases u with
    | nil => rwa [later.eq_nil]
    | cons z u =>
      rw [List.getLast?_cons_cons] at last
      have kept := ih last
      cases v with
      | nil => cases kept
      | cons z' v => rwa [List.getLast?_cons_cons]
  | @drop u v _ ih =>
    cases u with
    | nil => exact absurd (Option.some.inj last).symm other
    | cons z u => exact ih (by rwa [List.getLast?_cons_cons] at last)

end Thinned

theorem Unpaired.thinned (unpaired : Unpaired u v) : Thinned u v := by
  induction unpaired with
  | nil => exact .nil
  | keep _ _ ih => exact .keep _ ih
  | @pair t _ _ _ _ _ ih => exact .drop (.drop (ih.drop.drop.append_left t))

/-! ### Strong text without stars -/

/-- Strong text that double underscores open ends where the next underscore is one of two. -/
theorem ends_strong_of_double (rest : s.rest = '_' :: '_' :: u)
    (single : ¬ StartsPaired ('_' :: '_' :: u)) (stars : '*' ∉ u) :
    strong.pattern.ends (.ofSite s) = [] := by
  let w := u.takeWhile (· ≠ '_')
  let r := u.dropWhile (· ≠ '_')
  have split : u = w ++ r := List.takeWhile_append_dropWhile.symm
  have inside : '_' ∉ w := fun member => by simpa using List.mem_takeWhile_imp member
  have plain : ∀ y ∈ w, y ∉ ['*', '_'] := fun y member => by
    have star : y ≠ '*' := fun same => stars (split ▸ List.mem_append_left r (same ▸ member))
    have underscore : y ≠ '_' := fun same => inside (same ▸ member)
    simp [star, underscore]
  have stops : ∀ y r', r = y :: r' → y = '_' := fun y r' eq => by
    have first := List.head?_dropWhile_not (· ≠ '_') u
    rw [show u.dropWhile _ = y :: r' from eq] at first
    simpa using first
  rw [ends_strong (x := '_') (w := w) (r := r) (by simp) (by rw [rest, split]) plain
    fun y r' eq => by simp [stops y r' eq]]
  split
  case isFalse => rfl
  case isTrue enough =>
    have closed : ((Cursor.ofSite s).holding ['_', '_'] w []).rest = r :=
      Cursor.rest_holding (by simpa [rest] using split)
    cases follows : r with
    | nil => exact strongMarker_startsIn.ends_of_nil (closed.trans follows)
    | cons y r' =>
      obtain rfl := stops y r' follows
      refine ends_strongMarker_of_single (closed.trans follows) fun double => single ?_
      obtain ⟨r'', rfl⟩ := List.head?_eq_some_iff.mp double
      refine ⟨w, r'', ?_, List.length_pos_iff.mp enough, inside⟩
      rw [split, follows]
      rfl

/-- Without stars, strong text is what double underscores stand around. -/
theorem strong_nothing (single : ¬ StartsPaired s.rest) (stars : '*' ∉ s.rest) :
    strong.pattern.matchAt? s = none := by
  cases rest : s.rest with
  | nil => exact strong_startsIn.matchAt?_of_nil rest
  | cons x r =>
    rw [rest] at single stars
    by_cases underscore : x = '_'
    · subst underscore
      by_cases double : r.head? = some '_'
      · obtain ⟨u, rfl⟩ := List.head?_eq_some_iff.mp double
        simp only [List.mem_cons, not_or] at stars
        exact matchAt?_eq_none_iff.mpr (ends_strong_of_double rest single stars.2.2)
      · exact strong_nothing_of_single rest double
    · have star : x ≠ '*' := fun same => stars (same ▸ List.mem_cons_self)
      exact strong_startsIn.matchAt? rest (ofList_eq_false_iff.mpr (by simp [star, underscore]))

theorem Unpaired.turns (unpaired : Unpaired u v) (stars : '*' ∉ u) :
    strong.pattern.Turns strong.keep u v [] := by
  induction unpaired with
  | nil => exact .nil
  | @keep x u v single _ ih =>
    rw [List.mem_cons, not_or] at stars
    have kept : strong.pattern.Turns strong.keep [x] [x] (u ++ []) := by
      refine .of_nothing fun s rest => ?_
      rw [List.append_nil] at rest
      refine strong_nothing (rest ▸ single) ?_
      rw [rest, List.mem_cons, not_or]
      exact stars
    exact kept.append (ih stars.2)
  | @pair t u v some inside _ ih =>
    simp only [List.mem_append, not_or] at stars
    have mark : strong.pattern.Turns strong.keep (['_', '_'] ++ (t ++ ['_', '_'])) t (u ++ []) := by
      refine .of_yields (fun s rest => strong_yields (by simp) (by simp) (by simpa using rest) some
        fun z member => ?_) (by simp)
      have star : z ≠ '*' := fun same => stars.2.1 (same ▸ member)
      have underscore : z ≠ '_' := fun same => inside (same ▸ member)
      simp [star, underscore]
    simpa using mark.append (ih stars.2.2.2)

theorem reduce_strong_eq (unpaired : Unpaired u v) (stars : '*' ∉ u) : strong.reduce u = v :=
  (unpaired.turns stars).replaceAll_eq strong_startsIn

/-! ### Words between blanks -/

/-- A word of letters, digits and underscores that begins and ends with a letter. -/
structure Identifier where
  chars : List Char
  word : ∀ x ∈ chars, Unicode.isAsciiWordChar x = true
  first : chars.head?.any Unicode.isAsciiLetter = true
  last : chars.getLast?.any Unicode.isAsciiLetter = true

/-- A text of word characters and blanks that starts and ends with a letter, and in which every
blank comes before a letter. -/
structure IdentifierText (u : List Char) : Prop where
  chars : ∀ x ∈ u, Unicode.isAsciiWordChar x = true ∨ x = ' '
  first : u.head?.any Unicode.isAsciiLetter = true
  last : u.getLast?.any Unicode.isAsciiLetter = true
  blanks : u.IsChain fun x y => x = ' ' → Unicode.isAsciiLetter y = true

theorem ne_underscore_of_letter (letter : Unicode.isAsciiLetter x = true) : x ≠ '_' := by
  rintro rfl
  exact absurd letter (by decide)

/-- Taking underscores off keeps every letter next to the blank before it. -/
theorem IdentifierText.thinned (text : IdentifierText u) (thinned : Thinned u v) :
    IdentifierText v where
  chars x inside := text.chars x (thinned.mem inside)
  first := by
    obtain ⟨x, first, letter⟩ := (Option.any_eq_true ..).mp text.first
    rw [thinned.head? first (ne_underscore_of_letter letter)]
    exact letter
  last := by
    obtain ⟨x, last, letter⟩ := (Option.any_eq_true ..).mp text.last
    rw [thinned.getLast? last (ne_underscore_of_letter letter)]
    exact letter
  blanks := by
    have blanks := text.blanks
    clear text
    induction thinned with
    | nil => exact .nil
    | @keep y u v later ih =>
      rw [List.isChain_cons] at blanks ⊢
      refine ⟨fun z next blank => ?_, ih blanks.2⟩
      cases u with
      | nil => rw [later.eq_nil] at next; cases next
      | cons z' u =>
        have letter := blanks.1 z' rfl blank
        rw [later.head? rfl (ne_underscore_of_letter letter)] at next
        cases next
        exact letter
    | drop _ ih => exact ih (List.isChain_cons.mp blanks).2

theorem Identifier.text (word : Identifier) : IdentifierText word.chars where
  chars x inside := .inl (word.word x inside)
  first := word.first
  last := word.last
  blanks := by
    refine List.Pairwise.isChain (List.pairwise_of_forall_mem_list ?_)
    rintro x inside y _ rfl
    exact absurd (word.word ' ' inside) (by decide)

namespace IdentifierText

theorem exists_cons (text : IdentifierText u) :
    ∃ x r, u = x :: r ∧ Unicode.isAsciiLetter x = true := by
  cases u with
  | nil => exact absurd text.first (by decide)
  | cons x r => exact ⟨x, r, rfl, text.first⟩

/-- Texts with a blank between them. -/
theorem join (text : IdentifierText u) (other : IdentifierText v) :
    IdentifierText (u ++ ' ' :: v) where
  chars x inside := by
    rcases List.mem_append.mp inside with here | there
    · exact text.chars x here
    · rcases List.mem_cons.mp there with rfl | there
      · exact .inr rfl
      · exact other.chars x there
  first := by
    obtain ⟨x, r, rfl, letter⟩ := text.exists_cons
    exact letter
  last := by
    obtain ⟨y, r, rfl, -⟩ := other.exists_cons
    rw [List.getLast?_append_of_ne_nil _ (List.cons_ne_nil _ _), List.getLast?_cons_cons]
    exact other.last
  blanks := by
    obtain ⟨y, r, rfl, letter⟩ := other.exists_cons
    refine List.isChain_append.mpr ⟨text.blanks, List.isChain_cons_cons.mpr
      ⟨fun _ => letter, other.blanks⟩, ?_⟩
    rintro x last z ⟨⟩ rfl
    have blank := text.last
    rw [last] at blank
    exact absurd blank (by decide)

theorem notMem (text : IdentifierText u) {y : Char} (other : Unicode.isAsciiWordChar y = false)
    (blank : y ≠ ' ') : y ∉ u := by
  intro inside
  rcases text.chars y inside with word | same
  · rw [word] at other
    cases other
  · exact blank same

theorem underscoresInWords (text : IdentifierText u) : UnderscoresInWords u := by
  refine text.blanks.imp_of_mem_imp fun x y inside _ next underscore => ?_
  rcases text.chars x inside with word | blank
  · exact isWordChar_of_isAsciiWordChar word
  · exact absurd underscore (ne_underscore_of_letter (next blank))

/-- Only strong text can occur among identifiers. -/
theorem reduceInline_eq (text : IdentifierText u) (unpaired : Unpaired u v) :
    reduceInline u = v := by
  have after := text.thinned unpaired.thinned
  obtain ⟨x, r, eq, letter⟩ := after.exists_cons
  have first : v.head? ≠ some '_' := by
    rw [eq]
    rintro ⟨⟩
    exact absurd letter (by decide)
  rw [reduceInline]
  simp only [inlineMarks, List.foldl_cons, List.foldl_nil]
  rw [image.reduce_eq_self image_startsIn (text.notMem (by decide) (by decide)),
    inlineLink.reduce_eq_self inlineLink_startsIn (text.notMem (by decide) (by decide)),
    referenceLink.reduce_eq_self referenceLink_startsIn (text.notMem (by decide) (by decide)),
    autolink.reduce_eq_self autolink_startsIn (text.notMem (by decide) (by decide)),
    htmlTag.reduce_eq_self htmlTag_startsIn (text.notMem (by decide) (by decide)),
    codeSpan.reduce_eq_self codeSpan_startsIn (text.notMem (by decide) (by decide)),
    reduce_strong_eq unpaired (text.notMem (by decide) (by decide)),
    starEmphasis.reduce_eq_self starEmphasis_startsIn (after.notMem (by decide) (by decide)),
    reduce_underscoresInWords first after.underscoresInWords,
    strikethrough.reduce_eq_self strikethrough_startsIn (after.notMem (by decide) (by decide))]

theorem toPlainText_eq (text : IdentifierText u) (unpaired : Unpaired u v) :
    toPlainText (String.ofList u) = String.ofList v := by
  have after := text.thinned unpaired.thinned
  have visible : ∀ x ∈ v.getLast?, Text.isBlank x = false := by
    intro x last
    have letter := after.last
    rw [last] at letter
    exact isBlank_of_isAsciiLetter letter
  have reduced := text.reduceInline_eq unpaired
  have bar := text.notMem (y := '|') (by decide) (by decide)
  have feed := text.notMem (y := '\n') (by decide) (by decide)
  obtain ⟨x, r, rfl, letter⟩ := text.exists_cons
  rw [toPlainText_of_letter letter bar feed, reduced, Text.trimEnd_eq_self visible]

end IdentifierText

def identifierLine (first : Identifier) (others : List Identifier) : List Char :=
  Text.joinWith [' '] ((first :: others).map Identifier.chars)

theorem identifierText_line (first : Identifier) (others : List Identifier) :
    IdentifierText (identifierLine first others) := by
  induction others generalizing first with
  | nil => simpa [identifierLine, Text.joinWith] using first.text
  | cons second others ih =>
    have step : identifierLine first (second :: others) =
        first.chars ++ ' ' :: identifierLine second others := by
      simp [identifierLine, Text.joinWith]
    rw [step]
    exact first.text.join (ih second)

/-- A line of identifiers is rendered to the line without its pairs of double underscores, taken
off from left to right. So it is rendered as it is if and only if it has no such pair; letters,
digits and blanks are always kept. -/
theorem toPlainText_identifiers (first : Identifier) (others : List Identifier) :
    (toPlainText (String.ofList (identifierLine first others)) =
        String.ofList (identifierLine first others) ↔ ¬ HasPair (identifierLine first others)) ∧
      Unpaired (identifierLine first others)
        (toPlainText (String.ofList (identifierLine first others))).toList ∧
      (toPlainText (String.ofList (identifierLine first others))).toList.filter (· ≠ '_') =
        (identifierLine first others).filter (· ≠ '_') := by
  obtain ⟨v, unpaired⟩ := exists_unpaired (identifierLine first others)
  rw [(identifierText_line first others).toPlainText_eq unpaired, String.ofList_inj,
    String.toList_ofList]
  exact ⟨unpaired.eq_self_iff, unpaired, unpaired.thinned.filter_eq⟩

/-- Double underscores inside an identifier are taken off. -/
theorem toPlainText_loses_double_underscores :
    (∃ first : Identifier, String.ofList (identifierLine first []) = "a__b__c") ∧
      toPlainText "a__b__c" = "abc" := by
  have word : ∀ x ∈ ['a', '_', '_', 'b', '_', '_', 'c'], Unicode.isAsciiWordChar x = true :=
    List.all_eq_true.mp rfl
  exact ⟨⟨⟨['a', '_', '_', 'b', '_', '_', 'c'], word, rfl, rfl⟩, rfl⟩, rfl⟩

end DocLint.Markdown
