import DocLint.Proofs.Markdown.MarkedWords

/-!
# Underscored words

Underscored words stand in each other's way: an occurrence takes up the blank after it, which the
next one needs before it. In a line of marked words this is the only markup that can be left.
-/
namespace DocLint.Markdown

open Pattern

variable {item : Item} {items : List Item} {s : Site} {x : Char} {r : List Char}

/-! ### The marks of underscored words -/

/-- Items once underscored text has been reduced; the first argument tells whether an occurrence has
taken up the blank before them, so that an underscored word keeps its underscores. -/
def unmark : Bool → List Item → List Item
  | _, [] => []
  | lost, item :: items =>
    if item.markup = .underscore ∧ lost = false then ⟨.plain, item.word⟩ :: unmark true items
    else item :: unmark false items

/-- Nothing in an item itself is taken for underscored text: that takes a blank before it. -/
theorem underscoresInWords_source (late : 8 ≤ item.markup.stage) :
    UnderscoresInWords item.source := by
  obtain ⟨markup, w⟩ := item
  have word : ∀ x ∈ w.chars, Unicode.isWordChar x = true := fun x inside =>
    of_isAsciiLetter (P := fun x => Unicode.isWordChar x = true) (by decide) (w.letters x inside)
  have absent : '_' ∉ w.chars := w.notMem (by decide)
  cases markup
  case underscore =>
    refine underscoresInWords_of_forall fun x inside => ?_
    simp only [Item.source, Markup.opening, Markup.closing, List.mem_append,
      List.mem_singleton] at inside
    rcases inside with rfl | inside | rfl
    · decide
    · exact word x inside
    · decide
  case plain | strike =>
    refine underscoresInWords_of_notMem ?_
    simpa [Item.source, Markup.opening, Markup.closing] using absent
  all_goals simp [Markup.stage] at late

theorem head?_source (late : 8 ≤ item.markup.stage) (other : item.markup ≠ .underscore)
    (r : List Char) : (item.source ++ r).head? ≠ some '_' := by
  obtain ⟨markup, w⟩ := item
  cases markup
  case underscore => exact absurd rfl other
  case plain =>
    obtain ⟨x, front, eq, letter⟩ := w.exists_cons
    rw [source_plain, eq]
    rintro ⟨⟩
    exact absurd letter (by decide)
  case strike => simp [Item.source, Markup.opening]
  all_goals simp [Markup.stage] at late

theorem head?_tailOf (items : List Item) : (tailOf items).head? ≠ some '_' := fun first => by
  have := atBreak_tailOf items _ first
  contradiction

/-- An underscored word after a blank loses its underscores, and the blank after it is taken up. -/
theorem replaced_underscored {w : Word} (rest : s.rest = ' ' :: '_' :: (w.chars ++ '_' :: r))
    (atBreak : AtBreak r) :
    ∃ u, s.rest = u ++ r.drop 1 ∧ Replaced underscoreEmphasis.pattern underscoreEmphasis.keep s
      (' ' :: (w.chars ++ r.take 1)) (s.past u) := by
  have after : ∀ z ∈ r.head?, Unicode.isWordChar z = false := fun z first => by
    rw [atBreak z first]
    decide
  have visible : ∀ x ∈ w.chars.head?, Text.isBlank x = false := fun x first =>
    isBlank_of_isAsciiLetter (w.letters x (List.mem_of_head? first))
  have yields := underscoreEmphasis_yields rest (by decide) after (w.notMem (by decide)) w.some
    visible
  have split : s.rest = ' ' :: '_' :: (w.chars ++ '_' :: r.take 1) ++ r.drop 1 := by
    simp only [List.cons_append, List.append_assoc, List.take_append_drop]
    exact rest
  exact ⟨_, split, .of_yields yields split (by simp)⟩

theorem take_tailOf_unmark (lost : Bool) (items : List Item) :
    (tailOf (unmark lost items)).take 1 = (tailOf items).take 1 := by
  cases items with
  | nil => rfl
  | cons item items =>
    rw [unmark]
    split <;> simp [tailOf]

/-- Wherever the items stand inside a text, underscored text becomes what `unmark` gives. The blank
before the first of them is either still there, or was taken up with an underscored word before. -/
def Unmarks (lost : Bool) (items : List Item) : Prop :=
  ∀ s : Site, s.before ≠ none → s.rest = (tailOf items).drop lost.toNat →
    Replaced underscoreEmphasis.pattern underscoreEmphasis.keep s
      ((tailOf (unmark lost items)).drop lost.toNat) (s.past s.rest)

theorem Unmarks.nil (lost : Bool) : Unmarks lost [] := by
  intro s _ rest
  have nothing : s.rest = [] := by simpa [tailOf] using rest
  rw [nothing, Site.past_nil]
  simpa [unmark, tailOf] using Replaced.done

/-- An item that is reached without the blank before it stays as it is. -/
theorem Unmarks.replaced_source (later : Unmarks false items) (late : 8 ≤ item.markup.stage)
    (inner : s.before ≠ none) (rest : s.rest = item.source ++ tailOf items) :
    Replaced underscoreEmphasis.pattern underscoreEmphasis.keep s
      (item.source ++ tailOf (unmark false items)) (s.past s.rest) := by
  have here := replaced_underscoresInWords (fun start => absurd start inner) rest
    (underscoresInWords_source late) (head?_tailOf items)
  have next := Site.rest_past rest
  have after := later _ (Site.before_past_ne_none inner item.source) next
  rw [next, Site.past_past, ← rest] at after
  exact here.trans after

theorem Unmarks.cons_lost (later : Unmarks false items) (late : 8 ≤ item.markup.stage) :
    Unmarks true (item :: items) := by
  intro s inner rest
  have same : (tailOf (unmark true (item :: items))).drop 1 =
      item.source ++ tailOf (unmark false items) := by simp [unmark, tailOf]
  have follows : s.rest = item.source ++ tailOf items := by simpa [tailOf] using rest
  rw [Bool.toNat_true, same]
  exact later.replaced_source late inner follows

theorem Unmarks.cons_of_ne (later : Unmarks false items) (late : 8 ≤ item.markup.stage)
    (other : item.markup ≠ .underscore) : Unmarks false (item :: items) := by
  intro s inner rest
  have blank : s.rest = [' '] ++ (item.source ++ tailOf items) := by simpa [tailOf] using rest
  have nothing : underscoreEmphasis.pattern.matchAt? s = none := by
    refine underscoreEmphasis_nothing (fun start => absurd start inner) fun y r' split => ?_
    rw [blank] at split
    cases split
    exact .inr (head?_source late other _)
  have next := Site.rest_past blank
  have after := later.replaced_source late (Site.before_past_ne_none inner [' ']) next
  rw [next, Site.past_past, ← blank] at after
  have same : tailOf (unmark false (item :: items)) =
      ' ' :: (item.source ++ tailOf (unmark false items)) := by simp [unmark, tailOf, other]
  rw [Bool.toNat_false, List.drop_zero, same]
  exact .keep nothing blank after

theorem Unmarks.cons_underscored {w : Word} (later : Unmarks true items) :
    Unmarks false (⟨.underscore, w⟩ :: items) := by
  intro s inner rest
  have follows : s.rest = ' ' :: '_' :: (w.chars ++ '_' :: tailOf items) := by
    simpa [tailOf, Item.source, Markup.opening, Markup.closing] using rest
  obtain ⟨u, split, here⟩ := replaced_underscored follows (atBreak_tailOf items)
  have next := Site.rest_past split
  have after := later _ (Site.before_past_ne_none inner u) next
  rw [next, Site.past_past, ← split] at after
  have same : tailOf (unmark false (⟨.underscore, w⟩ :: items)) =
      ' ' :: (w.chars ++ (tailOf items).take 1) ++ (tailOf (unmark true items)).drop 1 := by
    rw [← take_tailOf_unmark true, List.cons_append, List.append_assoc, List.take_append_drop]
    simp [unmark, tailOf, Item.source, Markup.opening, Markup.closing]
  rw [Bool.toNat_false, List.drop_zero, same]
  exact here.trans after

theorem unmarks (late : ∀ item ∈ items, 8 ≤ item.markup.stage) (lost : Bool) :
    Unmarks lost items := by
  induction items generalizing lost with
  | nil => exact .nil lost
  | cons item items ih =>
    rw [List.forall_mem_cons] at late
    cases lost with
    | true => exact (ih late.2 false).cons_lost late.1
    | false =>
      by_cases underscored : item.markup = .underscore
      · obtain ⟨markup, w⟩ := item
        cases underscored
        exact (ih late.2 true).cons_underscored
      · exact (ih late.2 false).cons_of_ne late.1 underscored

theorem reduce_underscores (first : Word) (late : ∀ item ∈ items, 8 ≤ item.markup.stage) :
    underscoreEmphasis.reduce (lineOf (⟨.plain, first⟩ :: items)) =
      lineOf (⟨.plain, first⟩ :: unmark false items) := by
  rw [lineOf_cons, lineOf_cons]
  let item : Item := ⟨.plain, first⟩
  have plain : 8 ≤ item.markup.stage := Nat.le_of_ble_eq_true rfl
  let s := Site.first (item.source ++ tailOf items)
  have head : item.source.head? ≠ some '_' := by
    simpa using head?_source plain Markup.noConfusion []
  have start := replaced_underscoresInWords (s := s) (fun _ => head) rfl
    (underscoresInWords_source plain) (head?_tailOf items)
  have next : (s.past item.source).rest = tailOf items := Site.rest_past rfl
  have inner : (s.past item.source).before ≠ none := by
    simp [Site.past, item, source_plain, first.some]
  have later := unmarks late false _ inner next
  have last : ((s.past item.source).past (s.past item.source).rest).rest = [] :=
    Site.rest_past (List.append_nil _).symm
  exact replaceAll_of_replaced (start.trans later) last (underscoreEmphasis_nothing_of_nil last)

/-! ### What is shown -/

/-- What is shown of items: their words. But right after an underscored word that lost its
underscores, as the first argument tells, an underscored word keeps them. -/
def shown : Bool → List Item → List Item
  | _, [] => []
  | lost, item :: items =>
    if item.markup = .underscore then
      if lost then item :: shown false items else ⟨.plain, item.word⟩ :: shown true items
    else ⟨.plain, item.word⟩ :: shown false items

theorem upTo_eight_of_ne (other : item.markup ≠ .underscore) :
    (item.upTo 8).markup ≠ .underscore ∧ (item.upTo 8).after 9 = ⟨.plain, item.word⟩ := by
  obtain ⟨markup, w⟩ := item
  cases markup <;> simp_all [Item.upTo, Item.after, Markup.after, Markup.stage]

theorem map_after_unmark (lost : Bool) (items : List Item) :
    (unmark lost (items.map (Item.upTo 8))).map (Item.after 9) = shown lost items := by
  induction items generalizing lost with
  | nil => rfl
  | cons item items ih =>
    by_cases underscored : item.markup = .underscore
    · obtain ⟨markup, w⟩ := item
      cases underscored
      have same : Item.upTo 8 ⟨.underscore, w⟩ = ⟨.underscore, w⟩ := rfl
      have kept : Item.after 9 ⟨.underscore, w⟩ = ⟨.underscore, w⟩ := rfl
      have plain : Item.after 9 ⟨.plain, w⟩ = ⟨.plain, w⟩ := rfl
      cases lost with
      | true => simp [unmark, shown, same, kept, ih]
      | false => simp [unmark, shown, same, plain, ih]
    · obtain ⟨other, plain⟩ := upTo_eight_of_ne underscored
      simp [unmark, shown, underscored, other, plain, ih]

/-- All inline marks of a line of items are reduced. -/
theorem reduceInline_lineOf (first : Word) (items : List Item) :
    reduceInline (lineOf (⟨.plain, first⟩ :: items)) =
      lineOf (⟨.plain, first⟩ :: shown false items) := by
  have before := reduce_before_underscores (⟨.plain, first⟩ :: items)
  have late : ∀ item ∈ items.map (Item.upTo 8), 8 ≤ item.markup.stage := fun item inside => by
    obtain ⟨original, -, rfl⟩ := List.mem_map.mp inside
    exact le_stage_upTo (by decide) original
  have plain : lineUpTo 8 (⟨.plain, first⟩ :: items) =
      lineOf (⟨.plain, first⟩ :: items.map (Item.upTo 8)) := rfl
  have start : Item.after 9 ⟨.plain, first⟩ = ⟨.plain, first⟩ := rfl
  rw [reduceInline]
  simp only [inlineMarks, List.foldl_cons, List.foldl_nil]
  rw [before, plain, reduce_underscores first late,
    reduce_lineOf 9 strikethrough_startsIn (by decide) fun item _ =>
      reduces_strikethrough item, List.map_cons, map_after_unmark, start]

/-! ### Rendering -/

theorem marks_visible (markup : Markup) :
    markup.marks.all (fun x => !Text.isBlank x && x != '|') = true := by
  cases markup <;> rfl

/-- No item holds blanks or bars. -/
theorem source_visible (inside : x ∈ item.source) : Text.isBlank x = false ∧ x ≠ '|' := by
  rcases mem_source inside with letter | mark
  · refine ⟨isBlank_of_isAsciiLetter letter, ?_⟩
    rintro rfl
    exact absurd letter (by decide)
  · simpa using List.all_eq_true.mp (marks_visible item.markup) x mark

theorem source_ne_nil (item : Item) : item.source ≠ [] := by
  simp [Item.source, item.word.some]

theorem mem_lineOf (inside : x ∈ lineOf items) : x = ' ' ∨ ∃ item ∈ items, x ∈ item.source := by
  cases items with
  | nil => cases inside
  | cons item items =>
    rw [lineOf_cons, tailOf, List.mem_append, List.mem_flatMap] at inside
    rcases inside with here | ⟨other, member, there⟩
    · exact .inr ⟨item, List.mem_cons_self, here⟩
    · rcases List.mem_cons.mp there with rfl | there
      · exact .inl rfl
      · exact .inr ⟨other, List.mem_cons_of_mem _ member, there⟩

theorem trimEnd_lineOf (items : List Item) : Text.trimEnd (lineOf items) = lineOf items := by
  refine Text.trimEnd_eq_self fun x last => ?_
  suffices ∃ item : Item, x ∈ item.source from this.elim fun item inside => (source_visible inside).1
  have final (item : Item) (r : List Char) (ends : x ∈ (r ++ item.source).getLast?) :
      ∃ item : Item, x ∈ item.source := by
    rw [List.getLast?_append_of_ne_nil _ (source_ne_nil item)] at ends
    exact ⟨item, List.mem_of_getLast? ends⟩
  cases items with
  | nil => cases last
  | cons item items =>
    rw [lineOf_cons] at last
    rcases List.eq_nil_or_concat items with rfl | ⟨front, item', rfl⟩
    · exact final item [] (by simpa [tailOf] using last)
    · exact final item' (item.source ++ (tailOf front ++ [' '])) (by simpa [tailOf] using last)

theorem toPlainText_lineOf (first : Word) (items : List Item) :
    toPlainText (String.ofList (lineOf (⟨.plain, first⟩ :: items))) =
      String.ofList (lineOf (⟨.plain, first⟩ :: shown false items)) := by
  have inner : ∀ x ∈ lineOf (⟨.plain, first⟩ :: items), x ≠ '|' ∧ x ≠ '\n' := by
    intro x inside
    rcases mem_lineOf inside with rfl | ⟨item, -, here⟩
    · decide
    · obtain ⟨visible, other⟩ := source_visible here
      refine ⟨other, ?_⟩
      rintro rfl
      cases visible
  obtain ⟨c, front, eq, letter⟩ := first.exists_cons
  have split : lineOf (⟨.plain, first⟩ :: items) = c :: (front ++ tailOf items) := by
    rw [lineOf_cons, source_plain, eq, List.cons_append]
  have rendered := toPlainText_of_letter (r := front ++ tailOf items) letter
    (split ▸ fun bar => (inner _ bar).1 rfl) (split ▸ fun feed => (inner _ feed).2 rfl)
  rw [← split] at rendered
  rw [rendered, reduceInline_lineOf, trimEnd_lineOf]

/-! ### Neighbouring underscored words -/

def Spaced : List Item → Prop :=
  List.IsChain fun item next => ¬ (item.markup = .underscore ∧ next.markup = .underscore)

theorem spaced_cons_iff : Spaced (item :: items) ↔
    (item.markup = .underscore → ∀ next ∈ items.head?, next.markup ≠ .underscore) ∧
      Spaced items := by
  cases items with
  | nil => simp [Spaced]
  | cons next items => simp [Spaced, List.isChain_cons_cons]

theorem shown_plain_iff (lost : Bool) (items : List Item) :
    (∀ item ∈ shown lost items, item.markup ≠ .underscore) ↔
      (lost = true → ∀ item ∈ items.head?, item.markup ≠ .underscore) ∧ Spaced items := by
  induction items generalizing lost with
  | nil => simp [shown, Spaced]
  | cons item items ih =>
    rw [shown, spaced_cons_iff]
    by_cases underscored : item.markup = .underscore
    · cases lost <;> simp [underscored, ih]
    · simp [underscored, ih]

theorem shown_eq_words (lost : Bool) (items : List Item)
    (plain : ∀ item ∈ shown lost items, item.markup ≠ .underscore) :
    shown lost items = items.map fun item => ⟨.plain, item.word⟩ := by
  induction items generalizing lost with
  | nil => rfl
  | cons item items ih =>
    rw [shown] at plain ⊢
    by_cases underscored : item.markup = .underscore
    · cases lost with
      | true => simp [underscored] at plain
      | false =>
        simp only [underscored, if_true, Bool.false_eq_true, if_false, List.forall_mem_cons] at plain ⊢
        rw [List.map_cons, ih true plain.2]
    · simp only [underscored, if_false, List.forall_mem_cons] at plain ⊢
      rw [List.map_cons, ih false plain.2]

/-- The words of a line of items are its plain items. -/
theorem words_eq_lineOf (first : Word) (items : List Item) :
    Text.joinWith [' '] (first.chars :: items.map fun item => item.word.chars) =
      lineOf (⟨.plain, first⟩ :: items.map fun item => ⟨.plain, item.word⟩) := by
  simp [lineOf, source_plain, Function.comp_def]

theorem underscore_mem_lineOf (member : item ∈ items) (underscored : item.markup = .underscore) :
    '_' ∈ lineOf items := by
  have here : '_' ∈ item.source := by
    simp [Item.source, underscored, Markup.opening]
  cases items with
  | nil => cases member
  | cons next items =>
    rw [lineOf_cons, tailOf, List.mem_append, List.mem_flatMap]
    rcases List.mem_cons.mp member with rfl | later
    · exact .inl here
    · exact .inr ⟨item, later, List.mem_cons_of_mem _ here⟩

theorem underscore_notMem_words (first : Word) (items : List Item) :
    '_' ∉ lineOf (⟨.plain, first⟩ :: items.map fun item => ⟨.plain, item.word⟩) := by
  intro inside
  rcases mem_lineOf inside with blank | ⟨item, member, here⟩
  · cases blank
  · have plain : item.markup = .plain := by
      rcases List.mem_cons.mp member with rfl | later
      · rfl
      · obtain ⟨original, -, rfl⟩ := List.mem_map.mp later
        rfl
    obtain ⟨markup, w⟩ := item
    cases plain
    rw [source_plain] at here
    exact w.notMem (by decide) here

/-- In a line of items after a plain word every item is shown as its word, but for an underscored
word right after one that lost its underscores. So the words are all that is shown if and only if
no two neighbours are both underscored. -/
theorem toPlainText_items (first : Word) (items : List Item) :
    toPlainText (String.ofList (lineOf (⟨.plain, first⟩ :: items))) =
        String.ofList (lineOf (⟨.plain, first⟩ :: shown false items)) ∧
      (toPlainText (String.ofList (lineOf (⟨.plain, first⟩ :: items))) =
          String.ofList (Text.joinWith [' '] (first.chars :: items.map fun item => item.word.chars)) ↔
        Spaced items) := by
  refine ⟨toPlainText_lineOf first items, ?_⟩
  have spaced : (∀ item ∈ shown false items, item.markup ≠ .underscore) ↔ Spaced items := by
    simpa using shown_plain_iff false items
  rw [toPlainText_lineOf, String.ofList_inj, words_eq_lineOf, ← spaced]
  constructor
  · intro same item member underscored
    have left := underscore_mem_lineOf (List.mem_cons_of_mem ⟨.plain, first⟩ member) underscored
    rw [same] at left
    exact underscore_notMem_words first items left
  · intro plain
    rw [shown_eq_words false items plain]

/-- Two underscored words in a row: the second one keeps its underscores. -/
theorem toPlainText_keeps_second_underscored :
    (∃ a w v : Word,
      String.ofList (lineOf [⟨.plain, a⟩, ⟨.underscore, w⟩, ⟨.underscore, v⟩]) = "a _w_ _v_" ∧
        String.ofList (Text.joinWith [' '] [a.chars, w.chars, v.chars]) = "a w v") ∧
      toPlainText "a _w_ _v_" = "a w _v_" := by
  have letter (c : Char) (letter : Unicode.isAsciiLetter c = true) :
      ∀ x ∈ [c], Unicode.isAsciiLetter x = true := List.forall_mem_singleton.mpr letter
  refine ⟨⟨⟨['a'], by decide, letter 'a' rfl⟩, ⟨['w'], by decide, letter 'w' rfl⟩,
    ⟨['v'], by decide, letter 'v' rfl⟩, ?_, ?_⟩, ?_⟩
  · rfl
  · rfl
  · rfl

end DocLint.Markdown
