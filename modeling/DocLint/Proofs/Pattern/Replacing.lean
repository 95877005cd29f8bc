import DocLint.Proofs.Pattern.Ends

/-!
# Replacing matches

Replacing all matches goes along the text: where nothing matches a character is kept, and a match is
replaced and passed over. This is said as a judgement about two sites and what comes out between
them, which holds of the whole text if it holds of its parts. Parts are judged with the text that
follows them in place, so that no match is cut in two.
-/
namespace DocLint.Pattern

variable {p : Pattern} {template : List Nat} {s t e : Site} {u r out : List Char}

/-- From a site up to a later one, replacing the matches puts out the text. -/
inductive Replaced (p : Pattern) (template : List Nat) : Site → List Char → Site → Prop
  | done {s : Site} : Replaced p template s [] s
  | keep {s t : Site} {x : Char} {r out : List Char} (nothing : p.matchAt? s = none)
      (rest : s.rest = x :: r) (later : Replaced p template (s.past [x]) out t) :
      Replaced p template s (x :: out) t
  | swap {s t : Site} {m : Match} {u r out : List Char} (found : p.matchAt? s = Option.some m)
      (stop : m.whole.stop = s.past u) (rest : s.rest = u ++ r) (more : u ≠ [])
      (later : Replaced p template (s.past u) out t) :
      Replaced p template s (m.expand template ++ out) t

def Yields (p : Pattern) (template : List Nat) (s : Site) (u out : List Char) : Prop :=
  ∃ m, p.matchAt? s = Option.some m ∧ m.whole.stop = s.past u ∧ m.expand template = out

theorem matchAt?_eq_none_iff : p.matchAt? s = none ↔ p.ends (.ofSite s) = [] := by
  rw [matchAt?]
  cases p.ends (.ofSite s) <;> simp

theorem StartsIn.matchAt? {set : CharSet} {x : Char} (starts : p.StartsIn set)
    (rest : s.rest = x :: r) (outside : set x = false) : p.matchAt? s = none :=
  matchAt?_eq_none_iff.mpr (starts.ends_eq_nil (c := .ofSite s) rest outside)

theorem StartsIn.matchAt?_of_nil {set : CharSet} (starts : p.StartsIn set) (rest : s.rest = []) :
    p.matchAt? s = none :=
  matchAt?_eq_none_iff.mpr (starts.ends_of_nil (c := .ofSite s) rest)

theorem start_of_matchAt? {m : Match} (found : p.matchAt? s = Option.some m) : m.whole.start = s := by
  rw [matchAt?] at found
  cases ended : p.ends (.ofSite s) with
  | nil => rw [ended] at found; cases found
  | cons e more =>
    rw [ended] at found
    cases found
    rfl

/-- The match is where the preferred end is. -/
theorem yields_of_ends {e : Cursor} (ended : p.ends (.ofSite s) = [e])
    (stop : e.toSite = s.past u)
    (expands : (⟨⟨s, e.toSite⟩, e.groups⟩ : Match).expand template = out) :
    p.Yields template s u out :=
  ⟨_, by rw [Pattern.matchAt?, ended], stop, expands⟩

/-- A match whose first group holds the text that stands for it. -/
theorem yields_of_holding {a w b : List Char}
    (ended : p.ends (.ofSite s) = [(Cursor.ofSite s).holding a w b])
    (rest : s.rest = a ++ (w ++ (b ++ r))) : p.Yields [1] s (a ++ (w ++ b)) w := by
  refine yields_of_ends ended rfl ?_
  have text := Site.textTo_past_past (s := s) (u := a) (v := w) (r := b ++ r) rest
  simpa [Match.expand, Match.group?, Cursor.holding, Capture.text] using text

namespace Replaced

theorem trans {a b : List Char} (first : Replaced p template s a t)
    (second : Replaced p template t b e) : Replaced p template s (a ++ b) e := by
  induction first with
  | done => exact second
  | keep nothing rest _ ih => exact .keep nothing rest (ih second)
  | swap found stop rest more _ ih =>
    rw [List.append_assoc]
    exact .swap found stop rest more (ih second)

/-- A match is replaced. -/
theorem of_yields (yields : p.Yields template s u out) (rest : s.rest = u ++ r) (more : u ≠ []) :
    Replaced p template s out (s.past u) := by
  obtain ⟨m, found, stop, rfl⟩ := yields
  have whole : Replaced p template s (m.expand template ++ []) (s.past u) :=
    .swap found stop rest more .done
  rwa [List.append_nil] at whole

/-- One character is kept where nothing matches. -/
theorem of_nothing {x : Char} (nothing : p.matchAt? s = none) (rest : s.rest = x :: r) :
    Replaced p template s [x] (s.past [x]) :=
  .keep nothing rest .done

/-- A text without a character that a match could start with is kept. -/
theorem of_outside {set : CharSet} (starts : p.StartsIn set) (rest : s.rest = u ++ r)
    (outside : ∀ x ∈ u, set x = false) : Replaced p template s u (s.past u) := by
  induction u generalizing s with
  | nil => rw [Site.past_nil]; exact .done
  | cons x u ih =>
    rw [List.forall_mem_cons] at outside
    have later := ih (s := s.past [x]) (Site.rest_past (u := [x]) rest) outside.2
    rw [Site.past_past] at later
    exact .keep (starts.matchAt? rest outside.1) rest later

end Replaced

/-! ### The whole text -/

/-- A match that is found later starts at a site that was passed. -/
theorem start_of_searchFrom {m : Match} (rest : s.rest = u) (found : p.searchFrom s u = Option.some m) :
    ∃ v r, s.rest = v ++ r ∧ m.whole.start = s.past v := by
  induction u generalizing s with
  | nil =>
    rw [searchFrom] at found
    exact ⟨[], s.rest, rfl, by rw [start_of_matchAt? found, Site.past_nil]⟩
  | cons x u ih =>
    rw [searchFrom] at found
    cases here : p.matchAt? s with
    | some n =>
      rw [here] at found
      cases found
      exact ⟨[], s.rest, rfl, by rw [start_of_matchAt? here, Site.past_nil]⟩
    | none =>
      rw [here] at found
      rw [Site.after_eq_past rest] at found
      obtain ⟨v, r, split, start⟩ := ih (Site.rest_past (u := [x]) rest) found
      refine ⟨x :: v, r, ?_, ?_⟩
      · rw [rest, List.cons_append, ← split, Site.rest_past (u := [x]) rest]
      · rw [start, Site.past_past]
        rfl

theorem searchFrom_of_nothing {x : Char} (nothing : p.matchAt? s = none) (rest : s.rest = x :: r) :
    p.searchFrom s s.rest = p.searchFrom (s.past [x]) (s.past [x]).rest := by
  rw [rest, searchFrom, nothing, Site.after_eq_past rest, Site.rest_past (u := [x]) rest]

theorem searchFrom_of_match {m : Match} (found : p.matchAt? s = Option.some m) :
    p.searchFrom s s.rest = Option.some m := by
  cases rest : s.rest with
  | nil => rw [searchFrom, found]
  | cons x r => rw [searchFrom, found]

/-- The first match of a list is the leftmost one. -/
theorem searchFrom_of_matchesFrom {budget : List Char} {m : Match} {more : List Match}
    (found : p.matchesFrom budget s = m :: more) : p.searchFrom s s.rest = Option.some m := by
  rw [matchesFrom] at found
  split at found
  case h_1 => cases found
  case h_2 n first =>
    rw [first]
    split at found
    case h_1 => cases found; rfl
    case h_2 =>
      dsimp only at found
      split at found
      · split at found <;> · cases found; rfl
      · cases found; rfl

theorem matchesFrom_eq_nil_iff {budget : List Char} :
    p.matchesFrom budget s = [] ↔ p.searchFrom s s.rest = none := by
  rw [matchesFrom]
  cases p.searchFrom s s.rest with
  | none => simp
  | some m =>
    refine iff_of_false ?_ (by simp)
    cases budget with
    | nil => simp
    | cons x budget =>
      dsimp only
      split
      · split <;> simp
      · simp

/-- A pattern occurs in a text exactly if it has a match there. -/
theorem found_iff {text : List Char} : p.found text = true ↔ p.allMatches text ≠ [] := by
  have listed : p.matchesFrom text (.first text) = [] ↔ p.searchFrom (.first text) text = none :=
    matchesFrom_eq_nil_iff
  rw [found, search, allMatches, ne_eq, listed, Option.isSome_iff_ne_none]

/-- Moving over a character where nothing matches changes no later match. -/
theorem matchesFrom_of_nothing {x : Char} (nothing : p.matchAt? s = none) (rest : s.rest = x :: r)
    (budget : List Char) : p.matchesFrom budget s = p.matchesFrom budget (s.past [x]) := by
  rw [matchesFrom, searchFrom_of_nothing nothing rest, ← matchesFrom]

/-- So does moving over a text without a character that a match could start with. -/
theorem matchesFrom_of_outside {set : CharSet} (starts : p.StartsIn set) (rest : s.rest = u ++ r)
    (outside : ∀ x ∈ u, set x = false) (budget : List Char) :
    p.matchesFrom budget s = p.matchesFrom budget (s.past u) := by
  induction u generalizing s with
  | nil => rw [Site.past_nil]
  | cons x u ih =>
    rw [List.forall_mem_cons] at outside
    rw [matchesFrom_of_nothing (starts.matchAt? rest outside.1) rest,
      ih (Site.rest_past (u := [x]) rest) outside.2, Site.past_past]
    rfl

theorem matchesFrom_of_finished (last : s.rest = []) (nothing : p.matchAt? s = none)
    (budget : List Char) : p.matchesFrom budget s = [] := by
  rw [matchesFrom, last, searchFrom, nothing]

/-- A match that is not empty is listed, and the search goes on after it. -/
theorem matchesFrom_of_match {m : Match} (found : p.matchAt? s = Option.some m)
    (stop : m.whole.stop = s.past u) (more : u ≠ []) (x : Char) (budget : List Char) :
    p.matchesFrom (x :: budget) s = m :: p.matchesFrom budget (s.past u) := by
  have long : ¬ (m.whole.length == 0) = true := by
    have ahead := Site.offset_lt_past (s := s) more
    rw [Capture.length, start_of_matchAt? found, stop, beq_iff_eq]
    omega
  rw [matchesFrom, searchFrom_of_match found]
  simp only [if_neg long]
  rw [stop]

/-- A character where nothing matches is put out. -/
theorem splice_of_nothing {x : Char} (nothing : p.matchAt? s = none) (rest : s.rest = x :: r)
    (budget : List Char) :
    splice template s (p.matchesFrom budget s) =
      x :: splice template (s.past [x]) (p.matchesFrom budget (s.past [x])) := by
  have next := Site.rest_past (u := [x]) rest
  rw [matchesFrom_of_nothing nothing rest]
  cases found : p.matchesFrom budget (s.past [x]) with
  | nil => rw [splice, splice, rest, next]
  | cons m more =>
    obtain ⟨v, r', split, start⟩ := start_of_searchFrom rfl (searchFrom_of_matchesFrom found)
    have far : s.rest = (x :: v) ++ r' := by
      rw [rest, List.cons_append, ← split, next]
    rw [splice, splice, start, Site.textTo_past split, Site.past_past,
      Site.textTo_past (u := [x] ++ v) far]
    rfl

/-- What is put out from a site on, if every round of the budget is one character. -/
theorem splice_of_replaced (replaced : Replaced p template s out t) (last : t.rest = [])
    (nothing : p.matchAt? t = none) (budget : List Char)
    (enough : s.rest.length ≤ budget.length) :
    splice template s (p.matchesFrom budget s) = out := by
  induction replaced generalizing budget with
  | @done s => rw [matchesFrom_of_finished last nothing, splice, last]
  | keep here rest _ ih =>
    rw [splice_of_nothing here rest]
    refine congrArg _ (ih last nothing budget ?_)
    rw [Site.rest_past (u := [_]) rest]
    rw [rest, List.length_cons] at enough
    exact Nat.le_of_succ_le enough
  | @swap s t m u r out found stop rest more _ ih =>
    have shorter : 0 < u.length := List.length_pos_iff.mpr more
    rw [rest, List.length_append] at enough
    cases budget with
    | nil => simp only [List.length_nil] at enough; omega
    | cons x budget =>
      have here : s.textTo m.whole.start = [] := by
        have nothing := Site.textTo_past (s := s) (u := []) rfl
        rw [start_of_matchAt? found]
        rwa [Site.past_nil] at nothing
      rw [matchesFrom_of_match found stop more, splice, here, stop, ih last nothing budget ?_,
        List.nil_append]
      rw [Site.rest_past rest]
      rw [List.length_cons] at enough
      omega

/-- Replacing all matches puts out what is judged for the whole text. -/
theorem replaceAll_of_replaced {text : List Char}
    (replaced : Replaced p template (.first text) out t) (last : t.rest = [])
    (nothing : p.matchAt? t = none) : p.replaceAll template text = out :=
  splice_of_replaced replaced last nothing text (Nat.le_refl text.length)

/-! ### Wherever a text stands -/

/-- Replacing turns a text into another, wherever the text stands with the rest after it. -/
def Turns (p : Pattern) (template : List Nat) (u out r : List Char) : Prop :=
  ∀ s : Site, s.rest = u ++ r → Replaced p template s out (s.past u)

namespace Turns

variable {v out' : List Char} {set : CharSet}

theorem nil : p.Turns template [] [] r := fun s _ => by
  rw [Site.past_nil]
  exact .done

theorem append (first : p.Turns template u out (v ++ r)) (second : p.Turns template v out' r) :
    p.Turns template (u ++ v) (out ++ out') r := by
  intro s rest
  rw [List.append_assoc] at rest
  rw [← Site.past_past]
  exact (first s rest).trans (second _ (Site.rest_past rest))

theorem of_outside (starts : p.StartsIn set) (outside : ∀ x ∈ u, set x = false) :
    p.Turns template u u r :=
  fun _ rest => .of_outside starts rest outside

theorem of_notMem {x : Char} (starts : p.StartsIn (CharSet.one x)) (absent : x ∉ u) :
    p.Turns template u u r :=
  .of_outside starts fun y inside => by
    have other : y ≠ x := fun same => absent (same ▸ inside)
    simpa [CharSet.one] using other

theorem of_nothing {x : Char} (nothing : ∀ s : Site, s.rest = x :: r → p.matchAt? s = none) :
    p.Turns template [x] [x] r :=
  fun s rest => .of_nothing (nothing s rest) rest

theorem of_yields (yields : ∀ s : Site, s.rest = u ++ r → p.Yields template s u out)
    (more : u ≠ []) : p.Turns template u out r :=
  fun s rest => .of_yields (yields s rest) rest more

theorem replaceAll_eq (turns : p.Turns template u out []) (starts : p.StartsIn set) :
    p.replaceAll template u = out := by
  have rest : (Site.first u).rest = u ++ [] := (List.append_nil u).symm
  have last := Site.rest_past rest
  exact replaceAll_of_replaced (turns _ rest) last (starts.matchAt?_of_nil last)

end Turns

end DocLint.Pattern
