import DocLint.Proofs.Markdown.Emphasis
import DocLint.Proofs.Markdown.SingleLine

/-!
# Lines of marked words

A line of words, each plain or in inline markup, is reduced mark by mark: each mark takes its own
occurrences off their words and leaves the others as they are.
-/
namespace DocLint.Markdown

open Pattern

structure Word where
  chars : List Char
  some : chars ≠ []
  letters : ∀ c ∈ chars, Unicode.isAsciiLetter c = true
deriving DecidableEq

/-- What can be written around a word. -/
inductive Markup where
  | plain
  | star
  | underscore
  | doubleStar
  | doubleUnderscore
  | strike
  | code
  | link (target : Word)
  | image (target : Word)
  | linkedImage (source target : Word)
  | reference (label : Word)
  | bold
deriving DecidableEq

namespace Markup

def opening : Markup → List Char
  | plain => []
  | star => ['*']
  | underscore => ['_']
  | doubleStar => ['*', '*']
  | doubleUnderscore => ['_', '_']
  | strike => ['~', '~']
  | code => ['`']
  | link _ | reference _ => ['[']
  | image _ => ['!', '[']
  | linkedImage _ _ => ['[', '!', '[']
  | bold => ['<', 'b', '>']

def closing : Markup → List Char
  | plain => []
  | star => ['*']
  | underscore => ['_']
  | doubleStar => ['*', '*']
  | doubleUnderscore => ['_', '_']
  | strike => ['~', '~']
  | code => ['`']
  | link u | image u => ']' :: '(' :: (u.chars ++ [')'])
  | linkedImage u v => ']' :: '(' :: (u.chars ++ ')' :: ']' :: '(' :: (v.chars ++ [')']))
  | reference u => ']' :: '[' :: (u.chars ++ [']'])
  | bold => ['<', '/', 'b', '>']

def marks : Markup → List Char
  | plain => []
  | star | doubleStar => ['*']
  | underscore | doubleUnderscore => ['_']
  | strike => ['~']
  | code => ['`']
  | link _ => ['[', ']', '(', ')']
  | image _ | linkedImage _ _ => ['!', '[', ']', '(', ')']
  | reference _ => ['[', ']']
  | bold => ['<', '>', '/']

/-- The place of the inline mark that takes the markup off, among all inline marks. -/
def stage : Markup → Nat
  | image _ | linkedImage _ _ => 0
  | link _ => 1
  | reference _ => 2
  | bold => 4
  | code => 5
  | doubleStar | doubleUnderscore => 6
  | star => 7
  | underscore => 8
  | strike => 9
  | plain => 10

/-- What is left of the markup once the mark at a place has been reduced. -/
def after (place : Nat) (m : Markup) : Markup :=
  if m.stage = place then
    match m with
    | linkedImage _ v => link v
    | _ => plain
  else m

end Markup

structure Item where
  markup : Markup
  word : Word
deriving DecidableEq

namespace Item

def source (item : Item) : List Char :=
  item.markup.opening ++ (item.word.chars ++ item.markup.closing)

/-- An item once the mark at a place has been reduced. -/
def after (place : Nat) (item : Item) : Item := { item with markup := item.markup.after place }

end Item

def tailOf (items : List Item) : List Char := items.flatMap fun item => ' ' :: item.source

def lineOf (items : List Item) : List Char := Text.joinWith [' '] (items.map Item.source)

variable {mark : InlineMark} {set : CharSet} {item : Item} {items : List Item} {s : Site}
  {x : Char} {u r out : List Char}

theorem lineOf_cons (item : Item) (items : List Item) :
    lineOf (item :: items) = item.source ++ tailOf items := by
  induction items generalizing item with
  | nil => simp [lineOf, tailOf, Text.joinWith]
  | cons next items ih =>
    have step : lineOf (item :: next :: items) = item.source ++ ' ' :: lineOf (next :: items) := by
      simp [lineOf, Text.joinWith]
    rw [step, ih, tailOf, tailOf, List.flatMap_cons]
    rfl

theorem mem_source (inside : x ∈ item.source) :
    Unicode.isAsciiLetter x = true ∨ x ∈ item.markup.marks := by
  obtain ⟨markup, word⟩ := item
  have letter {w : Word} (member : x ∈ w.chars) := w.letters x member
  have tag : Unicode.isAsciiLetter 'b' = true := by decide
  cases markup <;> simp [Item.source, Markup.opening, Markup.closing, Markup.marks] at inside ⊢ <;>
    grind

/-- What can follow an item: a text that starts with a blank, or nothing. -/
def AtBreak (r : List Char) : Prop := ∀ x ∈ r.head?, x = ' '

theorem atBreak_tailOf (items : List Item) : AtBreak (tailOf items) := by
  cases items with
  | nil => simp [AtBreak, tailOf]
  | cons item items => simp [AtBreak, tailOf]

/-! ### One mark -/

/-- A mark turns a text into another if a blank or nothing follows. -/
def Reduces (mark : InlineMark) (u out : List Char) : Prop :=
  ∀ r, AtBreak r → mark.pattern.Turns mark.keep u out r

theorem source_plain (w : Word) : (Item.mk .plain w).source = w.chars := by
  simp [Item.source, Markup.opening, Markup.closing]

/-- A mark takes off the markup of an item that is an occurrence of it. -/
theorem Reduces.of_yields {m : Markup} {w : Word} (more : m.opening ≠ [])
    (yields : ∀ (s : Site) (r : List Char),
      s.rest = m.opening ++ (w.chars ++ (m.closing ++ r)) → AtBreak r →
        mark.pattern.Yields mark.keep s (m.opening ++ (w.chars ++ m.closing)) w.chars) :
    Reduces mark (Item.mk m w).source (Item.mk .plain w).source := by
  intro r atBreak
  rw [source_plain]
  refine .of_yields (fun s rest => yields s r ?_ atBreak) (List.append_ne_nil_of_left_ne_nil more _)
  simpa [Item.source] using rest

theorem Word.exists_cons (w : Word) :
    ∃ x r, w.chars = x :: r ∧ Unicode.isAsciiLetter x = true := by
  obtain ⟨x, r, eq⟩ := List.exists_cons_of_ne_nil w.some
  exact ⟨x, r, eq, w.letters x (eq ▸ List.mem_cons_self)⟩

theorem Word.notMem (w : Word) (other : Unicode.isAsciiLetter x = false) : x ∉ w.chars := by
  intro inside
  rw [w.letters x inside] at other
  cases other

/-- A mark that no character of an item can start keeps the item. -/
theorem reduces_of_outside (starts : mark.pattern.StartsIn set)
    (letters : ∀ x, Unicode.isAsciiLetter x = true → set x = false)
    (marks : ∀ x ∈ item.markup.marks, set x = false) : Reduces mark item.source item.source := by
  refine fun r _ => .of_outside starts fun x inside => ?_
  rcases mem_source inside with letter | mark
  · exact letters x letter
  · exact marks x mark

theorem reduces_self {y : Char} (starts : mark.pattern.StartsIn (CharSet.one y))
    (other : Unicode.isAsciiLetter y = false) (absent : y ∉ item.markup.marks) :
    Reduces mark item.source item.source := by
  refine reduces_of_outside starts (fun x letter => ?_) fun x mark => ?_
  · rw [one_eq_false_iff]
    rintro rfl
    rw [letter] at other
    cases other
  · rw [one_eq_false_iff]
    rintro rfl
    exact absent mark

theorem reduces_image (item : Item) : Reduces image item.source (item.after 0).source := by
  obtain ⟨markup, w⟩ := item
  cases markup
  case image u =>
    exact .of_yields (by simp [Markup.opening]) fun s r rest _ =>
      image_yields rest (w.notMem (by decide)) (u.notMem (by decide))
  case linkedImage u v =>
    intro r _
    have target : '!' ∉ ']' :: '(' :: (v.chars ++ [')']) := by simpa using v.notMem (by decide)
    have whole : image.pattern.Turns image.keep (['['] ++ (['!', '['] ++
        (w.chars ++ (']' :: '(' :: (u.chars ++ [')']))) ++ ']' :: '(' :: (v.chars ++ [')'])))
        (['['] ++ (w.chars ++ ']' :: '(' :: (v.chars ++ [')']))) r :=
      .append (.of_notMem image_startsIn (by decide))
        (.append
          (.of_yields (fun s rest => image_yields (by simpa using rest) (w.notMem (by decide))
            (u.notMem (by decide))) (by simp))
          (.of_notMem image_startsIn target))
    simpa [Item.source, Item.after, Markup.after, Markup.stage, Markup.opening,
      Markup.closing] using whole
  all_goals exact reduces_self image_startsIn (by decide) (by simp [Markup.marks])

theorem reduces_inlineLink (item : Item) (later : 1 ≤ item.markup.stage) :
    Reduces inlineLink item.source (item.after 1).source := by
  obtain ⟨markup, w⟩ := item
  cases markup
  case image | linkedImage => simp [Markup.stage] at later
  case link u =>
    exact .of_yields (by simp [Markup.opening]) fun s r rest _ =>
      inlineLink_yields rest (w.notMem (by decide)) (u.notMem (by decide))
  case reference u =>
    intro r atBreak
    have word (v : Word) : '[' ∉ v.chars ++ [']'] := by simpa using v.notMem (by decide)
    have whole : inlineLink.pattern.Turns inlineLink.keep
        (['['] ++ ((w.chars ++ [']']) ++ (['['] ++ (u.chars ++ [']']))))
        (['['] ++ ((w.chars ++ [']']) ++ (['['] ++ (u.chars ++ [']'])))) r :=
      .append (.of_nothing fun s rest => inlineLink_nothing (w := w.chars) (by simpa using rest)
          (w.notMem (by decide)) (by simp))
        (.append (.of_notMem inlineLink_startsIn (word w))
          (.append (.of_nothing fun s rest => inlineLink_nothing (w := u.chars)
              (by simpa using rest) (u.notMem (by decide)) fun head => by
                have := atBreak _ head
                contradiction)
            (.of_notMem inlineLink_startsIn (word u))))
    simpa [Item.source, Item.after, Markup.after, Markup.stage, Markup.opening,
      Markup.closing] using whole
  all_goals exact reduces_self inlineLink_startsIn (by decide) (by simp [Markup.marks])

theorem reduces_referenceLink (item : Item) (later : 2 ≤ item.markup.stage) :
    Reduces referenceLink item.source (item.after 2).source := by
  obtain ⟨markup, w⟩ := item
  cases markup
  case image | linkedImage | link => simp [Markup.stage] at later
  case reference u =>
    exact .of_yields (by simp [Markup.opening]) fun s r rest _ =>
      referenceLink_yields rest w.some (w.notMem (by decide)) (u.notMem (by decide))
  all_goals exact reduces_self referenceLink_startsIn (by decide) (by simp [Markup.marks])

theorem reduces_autolink (item : Item) : Reduces autolink item.source (item.after 3).source := by
  obtain ⟨markup, w⟩ := item
  cases markup
  case bold =>
    intro r _
    have word : '<' ∉ 'b' :: '>' :: w.chars := by simpa using w.notMem (by decide)
    have whole : autolink.pattern.Turns autolink.keep
        (['<'] ++ (('b' :: '>' :: w.chars) ++ (['<'] ++ ['/', 'b', '>'])))
        (['<'] ++ (('b' :: '>' :: w.chars) ++ (['<'] ++ ['/', 'b', '>']))) r :=
      .append (.of_nothing fun s rest => autolink_nothing rest (by decide) (by decide))
        (.append (.of_notMem autolink_startsIn word)
          (.append (.of_nothing fun s rest => autolink_nothing rest (by decide) (by decide))
            (.of_notMem autolink_startsIn (by decide))))
    simpa [Item.source, Item.after, Markup.after, Markup.stage, Markup.opening,
      Markup.closing] using whole
  all_goals exact reduces_self autolink_startsIn (by decide) (by simp [Markup.marks])

theorem reduces_htmlTag (item : Item) : Reduces htmlTag item.source (item.after 4).source := by
  obtain ⟨markup, w⟩ := item
  cases markup
  case bold =>
    intro r _
    have whole : htmlTag.pattern.Turns htmlTag.keep
        (['<', 'b', '>'] ++ (w.chars ++ ['<', '/', 'b', '>'])) ([] ++ (w.chars ++ [])) r :=
      .append (.of_yields (fun s rest => htmlTag_yields_opening (u := []) rest (by decide)
          (by simp)) (by simp))
        (.append (.of_notMem htmlTag_startsIn (w.notMem (by decide)))
          (.of_yields (fun s rest => htmlTag_yields_closing (u := []) rest (by decide)
            (by simp)) (by simp)))
    simpa [Item.source, Item.after, Markup.after, Markup.stage, Markup.opening,
      Markup.closing] using whole
  all_goals exact reduces_self htmlTag_startsIn (by decide) (by simp [Markup.marks])

theorem reduces_codeSpan (item : Item) : Reduces codeSpan item.source (item.after 5).source := by
  obtain ⟨markup, w⟩ := item
  cases markup
  case code =>
    exact .of_yields (by simp [Markup.opening]) fun s r rest atBreak =>
      codeSpan_yields rest w.some (w.notMem (by decide)) fun head => by
        have := atBreak _ head
        contradiction
  all_goals exact reduces_self codeSpan_startsIn (by decide) (by simp [Markup.marks])

/-- A single star or underscore on either side is no marker of strong text. -/
theorem turns_strong_single {y : Char} {w : Word} (mark : y ∈ ['*', '_']) (atBreak : AtBreak r)
    (inside : ∀ x ∈ w.chars, x ∉ ['*', '_']) :
    strong.pattern.Turns strong.keep ([y] ++ (w.chars ++ [y])) ([y] ++ (w.chars ++ [y])) r := by
  refine .append (.of_nothing fun s rest => strong_nothing_of_single rest ?_)
    (.append (.of_outside strong_startsIn fun x member => ofList_eq_false_iff.mpr (inside x member))
      (.of_nothing fun s rest => strong_nothing_of_single rest ?_))
  · obtain ⟨x, front, eq, -⟩ := w.exists_cons
    rw [eq]
    rintro ⟨⟩
    exact inside y (eq ▸ List.mem_cons_self) mark
  · intro head
    rw [atBreak y head] at mark
    revert mark
    decide

theorem reduces_strong (item : Item) : Reduces strong item.source (item.after 6).source := by
  obtain ⟨markup, w⟩ := item
  have letters : ∀ x, Unicode.isAsciiLetter x = true → CharSet.ofList ['*', '_'] x = false :=
    fun x => of_isAsciiLetter (P := fun x => CharSet.ofList ['*', '_'] x = false) (by decide)
  have inside : ∀ x ∈ w.chars, x ∉ ['*', '_'] := fun x member =>
    ofList_eq_false_iff.mp (letters x (w.letters x member))
  cases markup
  case doubleStar =>
    exact .of_yields (by simp [Markup.opening]) fun s r rest _ =>
      strong_yields (x := '*') (y := '*') (by simp) (by simp) rest w.some inside
  case doubleUnderscore =>
    exact .of_yields (by simp [Markup.opening]) fun s r rest _ =>
      strong_yields (x := '_') (y := '_') (by simp) (by simp) rest w.some inside
  case star => exact fun r atBreak => turns_strong_single (by simp) atBreak inside
  case underscore => exact fun r atBreak => turns_strong_single (by simp) atBreak inside
  all_goals exact reduces_of_outside strong_startsIn letters (by simp [Markup.marks])

theorem reduces_starEmphasis (item : Item) (later : 7 ≤ item.markup.stage) :
    Reduces starEmphasis item.source (item.after 7).source := by
  obtain ⟨markup, w⟩ := item
  cases markup
  case doubleStar => simp [Markup.stage] at later
  case star =>
    exact .of_yields (by simp [Markup.opening]) fun s r rest _ =>
      starEmphasis_yields rest (w.notMem (by decide)) w.some fun x first =>
        isBlank_of_isAsciiLetter (w.letters x (List.mem_of_head? first))
  all_goals exact reduces_self starEmphasis_startsIn (by decide) (by simp [Markup.marks])

theorem reduces_strikethrough (item : Item) :
    Reduces strikethrough item.source (item.after 9).source := by
  obtain ⟨markup, w⟩ := item
  cases markup
  case strike =>
    exact .of_yields (by simp [Markup.opening]) fun s r rest _ =>
      strikethrough_yields rest w.some (w.notMem (by decide))
  all_goals exact reduces_self strikethrough_startsIn (by decide) (by simp [Markup.marks])

/-! ### A line -/

theorem turns_tailOf {place : Nat} (starts : mark.pattern.StartsIn set) (blank : set ' ' = false)
    (each : ∀ item ∈ items, Reduces mark item.source (item.after place).source) :
    mark.pattern.Turns mark.keep (tailOf items) (tailOf (items.map (Item.after place))) [] := by
  induction items with
  | nil => exact .nil
  | cons item items ih =>
    rw [List.forall_mem_cons] at each
    have step := each.1 (tailOf items ++ []) (by simpa using atBreak_tailOf items)
    have before : mark.pattern.Turns mark.keep [' '] [' '] (item.source ++ tailOf items ++ []) :=
      .of_outside starts (by simpa using blank)
    exact before.append (step.append (ih each.2))

theorem reduce_lineOf (place : Nat) (starts : mark.pattern.StartsIn set) (blank : set ' ' = false)
    (each : ∀ item ∈ items, Reduces mark item.source (item.after place).source) :
    mark.reduce (lineOf items) = lineOf (items.map (Item.after place)) := by
  cases items with
  | nil => exact Turns.nil.replaceAll_eq starts
  | cons item items =>
    rw [List.forall_mem_cons] at each
    rw [List.map_cons, lineOf_cons, lineOf_cons]
    have step := each.1 (tailOf items ++ []) (by simpa using atBreak_tailOf items)
    exact (step.append (turns_tailOf starts blank each.2)).replaceAll_eq starts

def Item.upTo : Nat → Item → Item
  | 0, item => item
  | place + 1, item => (item.upTo place).after place

theorem Markup.lt_stage_after {place : Nat} {m : Markup} (lt : place < 10)
    (before : place ≤ m.stage) : place < (m.after place).stage := by
  unfold Markup.after
  by_cases here : m.stage = place
  · rw [if_pos here]
    subst here
    cases m <;> simp_all [Markup.stage]
  · rw [if_neg here]
    omega

theorem le_stage_upTo {place : Nat} (le : place ≤ 10) (item : Item) :
    place ≤ (item.upTo place).markup.stage := by
  induction place with
  | zero => exact Nat.zero_le _
  | succ place ih => exact Markup.lt_stage_after le (ih (Nat.le_of_succ_le le))

def lineUpTo (place : Nat) (items : List Item) : List Char := lineOf (items.map (Item.upTo place))

theorem reduce_lineUpTo {place : Nat} (starts : mark.pattern.StartsIn set)
    (blank : set ' ' = false) (le : place ≤ 10)
    (each : ∀ item : Item, place ≤ item.markup.stage →
      Reduces mark item.source (item.after place).source) (items : List Item) :
    mark.reduce (lineUpTo place items) = lineUpTo (place + 1) items := by
  rw [lineUpTo, lineUpTo, reduce_lineOf place starts blank _, List.map_map]
  · rfl
  · intro item inside
    obtain ⟨original, -, rfl⟩ := List.mem_map.mp inside
    exact each _ (le_stage_upTo le original)

/-- The marks before underscored text. -/
theorem reduce_before_underscores (items : List Item) :
    starEmphasis.reduce (strong.reduce (codeSpan.reduce (htmlTag.reduce (autolink.reduce
      (referenceLink.reduce (inlineLink.reduce (image.reduce (lineOf items)))))))) =
        lineUpTo 8 items := by
  have start : lineOf items = lineUpTo 0 items := by
    rw [lineUpTo, show Item.upTo 0 = id from rfl, List.map_id]
  rw [start,
    reduce_lineUpTo image_startsIn (by decide) (by decide) fun item _ => reduces_image item,
    reduce_lineUpTo inlineLink_startsIn (by decide) (by decide) reduces_inlineLink,
    reduce_lineUpTo referenceLink_startsIn (by decide) (by decide) reduces_referenceLink,
    reduce_lineUpTo autolink_startsIn (by decide) (by decide) fun item _ => reduces_autolink item,
    reduce_lineUpTo htmlTag_startsIn (by decide) (by decide) fun item _ => reduces_htmlTag item,
    reduce_lineUpTo codeSpan_startsIn (by decide) (by decide) fun item _ => reduces_codeSpan item,
    reduce_lineUpTo strong_startsIn (by decide) (by decide) fun item _ => reduces_strong item,
    reduce_lineUpTo starEmphasis_startsIn (by decide) (by decide) reduces_starEmphasis]

end DocLint.Markdown
