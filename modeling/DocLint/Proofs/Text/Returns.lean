import DocLint.Proofs.Text.Trimming
import Mathlib.Data.List.Forall2
import Mathlib.Data.List.TakeWhile

/-!
# Carriage returns in front of line feeds

A text without carriage returns may have some put in front of its line feeds. What is cut off such a
text by blanks, by line breaks or by lines corresponds to what is cut off the text as it was, and
its lines are the same.
-/
namespace DocLint.Text

/-- The second text is the first one, which has no carriage returns, with carriage returns in front
of some of its line feeds. -/
inductive ReturnsAdded : List Char → List Char → Prop
  | nil : ReturnsAdded [] []
  | keep {c : Char} {s t : List Char} (noReturn : c ≠ '\r') (rest : ReturnsAdded s t) :
      ReturnsAdded (c :: s) (c :: t)
  | add {s t : List Char} (rest : ReturnsAdded s t) : ReturnsAdded ('\n' :: s) ('\r' :: '\n' :: t)

namespace ReturnsAdded

variable {s t : List Char}

theorem append {s' t' : List Char} (first : ReturnsAdded s t) (second : ReturnsAdded s' t') :
    ReturnsAdded (s ++ s') (t ++ t') := by
  induction first with
  | nil => exact second
  | keep noReturn _ ih => exact .keep noReturn ih
  | add _ ih => exact .add ih

theorem flatten {xs ys : List (List Char)} (each : List.Forall₂ ReturnsAdded xs ys) :
    ReturnsAdded xs.flatten ys.flatten := by
  induction each with
  | nil => exact .nil
  | cons first _ ih => exact first.append ih

/-- Without its carriage returns, the second text is the first one. -/
theorem filter_eq (added : ReturnsAdded s t) : t.filter (· != '\r') = s := by
  induction added with
  | nil => rfl
  | keep noReturn _ ih => rw [List.filter_cons_of_pos (by simpa using noReturn), ih]
  | add _ ih =>
    rw [List.filter_cons_of_neg (by decide), List.filter_cons_of_pos (by decide), ih]

theorem isEmpty_eq (added : ReturnsAdded s t) : t.isEmpty = s.isEmpty := by
  cases added <;> rfl

theorem isBlankText_eq (added : ReturnsAdded s t) : isBlankText t = isBlankText s := by
  rw [isBlankText, isBlankText]
  induction added with
  | nil => rfl
  | keep _ _ ih => simp only [List.all_cons, ih]
  | add _ ih => simp only [List.all_cons, ih, (by decide : isBlank '\r' = true), Bool.true_and]

/-- Where a predicate makes no difference between the two line breaks, it cuts both texts at the
same place. -/
theorem span {p : Char → Bool} (alike : p '\r' = p '\n') (added : ReturnsAdded s t) :
    ReturnsAdded (s.takeWhile p) (t.takeWhile p) ∧
      ReturnsAdded (s.dropWhile p) (t.dropWhile p) := by
  induction added with
  | nil => exact ⟨.nil, .nil⟩
  | @keep c s t noReturn rest ih =>
    cases taken : p c with
    | true =>
      simp only [List.takeWhile_cons, List.dropWhile_cons, taken, if_true]
      exact ⟨.keep noReturn ih.1, ih.2⟩
    | false =>
      simp only [List.takeWhile_cons, List.dropWhile_cons, taken, Bool.false_eq_true, if_false]
      exact ⟨.nil, .keep noReturn rest⟩
  | add rest ih =>
    cases taken : p '\n' with
    | true =>
      simp only [List.takeWhile_cons, List.dropWhile_cons, alike, taken, if_true]
      exact ⟨.add ih.1, ih.2⟩
    | false =>
      simp only [List.takeWhile_cons, List.dropWhile_cons, alike, taken, Bool.false_eq_true,
        if_false]
      exact ⟨.nil, .add rest⟩

/-- A start without line breaks stays where it is. -/
theorem of_start {start : List Char} (noFeed : '\n' ∉ start) (added : ReturnsAdded (start ++ s) t) :
    ∃ t', t = start ++ t' ∧ ReturnsAdded s t' := by
  induction start generalizing t with
  | nil => exact ⟨t, rfl, added⟩
  | cons c start ih =>
    rw [List.mem_cons, not_or] at noFeed
    generalize whole : c :: start ++ s = s' at added
    cases added with
    | nil => cases whole
    | keep _ rest =>
      cases whole
      obtain ⟨t', rfl, others⟩ := ih noFeed.2 rest
      exact ⟨t', rfl, others⟩
    | add =>
      cases whole
      exact absurd rfl noFeed.1

/-- A start without line breaks was there before. -/
theorem start_of {start : List Char} (noReturn : '\r' ∉ start)
    (added : ReturnsAdded s (start ++ t)) : ∃ s', s = start ++ s' ∧ ReturnsAdded s' t := by
  induction start generalizing s with
  | nil => exact ⟨s, rfl, added⟩
  | cons c start ih =>
    rw [List.mem_cons, not_or] at noReturn
    generalize whole : c :: start ++ t = t' at added
    cases added with
    | nil => cases whole
    | keep _ rest =>
      cases whole
      obtain ⟨s', rfl, others⟩ := ih noReturn.2 rest
      exact ⟨s', rfl, others⟩
    | add => exact absurd (List.cons.inj whole).1.symm noReturn.1

end ReturnsAdded

/-! ### Lines -/

structure SameLine (s t : List Char) : Prop where
  added : ReturnsAdded s t
  chomp_eq : chomp t = chomp s

variable {s t : List Char}

theorem chomp_cons {c : Char} (noReturn : c ≠ '\r') (noFeed : c ≠ '\n') (line : List Char) :
    chomp (c :: line) = c :: chomp line := by
  rcases List.eq_nil_or_concat line with rfl | ⟨front, last, rfl⟩
  · simp [chomp, noFeed]
  · rcases List.eq_nil_or_concat front with rfl | ⟨front, second, rfl⟩
    · simp only [List.concat_eq_append]
      by_cases h : last = '\n'
      · simp [chomp, h, noReturn]
      · simp [chomp, h]
    · by_cases h : last = '\n' <;> by_cases h' : second = '\r' <;> simp [chomp, h, h']

theorem SameLine.cons {c : Char} (noReturn : c ≠ '\r') (noFeed : c ≠ '\n')
    (same : SameLine s t) : SameLine (c :: s) (c :: t) where
  added := .keep noReturn same.added
  chomp_eq := by
    rw [chomp_cons noReturn noFeed, chomp_cons noReturn noFeed, same.chomp_eq]

/-- Both texts have the same lines, apart from the carriage returns at their ends. -/
theorem ReturnsAdded.splitAfter (added : ReturnsAdded s t) :
    List.Forall₂ SameLine (splitAfter (· == '\n') s) (splitAfter (· == '\n') t) := by
  induction added with
  | nil => exact .nil
  | @keep c s t noReturn rest ih =>
    by_cases feed : c = '\n'
    · subst feed
      simp only [Text.splitAfter, beq_self_eq_true, if_true]
      exact .cons ⟨.keep noReturn .nil, rfl⟩ ih
    · simp only [Text.splitAfter, beq_eq_false_iff_ne.mpr feed, Bool.false_eq_true, if_false]
      generalize Text.splitAfter (· == '\n') s = xs at ih ⊢
      generalize Text.splitAfter (· == '\n') t = ys at ih ⊢
      cases ih with
      | nil => exact .cons ⟨.keep noReturn .nil, rfl⟩ .nil
      | cons first others => exact .cons (first.cons noReturn feed) others
  | add _ ih =>
    have inside : ('\r' == '\n') = false := by decide
    simp only [Text.splitAfter, inside, beq_self_eq_true, Bool.false_eq_true, if_true, if_false]
    exact .cons ⟨.add .nil, rfl⟩ ih

theorem ReturnsAdded.lines_eq (added : ReturnsAdded s t) : lines t = lines s := by
  have pairs := added.splitAfter
  rw [lines, lines]
  generalize Text.splitAfter (· == '\n') s = xs at pairs ⊢
  generalize Text.splitAfter (· == '\n') t = ys at pairs ⊢
  induction pairs with
  | nil => rfl
  | cons same _ ih => rw [List.map_cons, List.map_cons, same.chomp_eq, ih]

end DocLint.Text
