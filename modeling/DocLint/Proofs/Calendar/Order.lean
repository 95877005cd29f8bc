import DocLint.Calendar.Instant

/-!
# The order of instants and moving by milliseconds

Instants that are no leap seconds are ordered like their distances from the start of 1970 in
nanoseconds, and moving them adds to these distances. Moving keeps the order of all instants, and a
move within the calendar fails only if its end belongs to no date.
-/
namespace DocLint.Calendar.Instant

/-- An instant as clocks show it: it belongs to a date, and its second is at most repeated once. -/
structure IsValid (t : Instant) : Prop where
  dated : t.inRange = true
  fraction : t.nanos < 2 * secondNanos

def toNanos (t : Instant) : Int := t.seconds * secondNanos + t.nanos

def IsOrdinary (t : Instant) : Prop := t.nanos < secondNanos

def IsTooEarly (t : Instant) : Prop := t.seconds < minDay * daySeconds

def IsTooLate (t : Instant) : Prop := (maxDay + 1) * daySeconds ≤ t.seconds

theorem minDay_eq : minDay = -96465292 := by decide

theorem maxDay_eq : maxDay = 95026236 := by decide

variable {a b c t : Instant}

theorem before_iff : a.before b = true ↔
    a.seconds < b.seconds ∨ (a.seconds = b.seconds ∧ a.nanos < b.nanos) := by
  simp [before]

theorem before_iff_toNanos_lt (ordinary : a.IsOrdinary) (also : b.IsOrdinary) :
    a.before b = true ↔ a.toNanos < b.toNanos := by
  rw [before_iff]
  simp only [IsOrdinary, toNanos, secondNanos] at *
  omega

/-- An instant before a second one is before whatever is not before that one. -/
theorem before_of_before_of_not_before (less : a.before b = true) (le : ¬ c.before b = true) :
    a.before c = true := by
  rw [before_iff] at *
  omega

theorem before_of_not_before_of_before (le : ¬ b.before a = true) (less : b.before c = true) :
    a.before c = true := by
  rw [before_iff] at *
  omega

theorem inRange_iff : t.inRange = true ↔ ¬ t.IsTooEarly ∧ ¬ t.IsTooLate := by
  simp only [inRange, IsTooEarly, IsTooLate, daySeconds, minDay_eq, maxDay_eq,
    Int.fdiv_eq_ediv_of_nonneg _ (by decide : (0 : Int) ≤ 86400), Bool.and_eq_true,
    decide_eq_true_eq]
  omega

theorem seconds_ofNanos (n : Int) : (ofNanos n).seconds = n / 1000000000 :=
  Int.fdiv_eq_ediv_of_nonneg n (by decide)

theorem nanos_ofNanos (n : Int) : ((ofNanos n).nanos : Int) = n % 1000000000 := by
  have nonneg := Int.emod_nonneg n (by decide : (1000000000 : Int) ≠ 0)
  rw [ofNanos, secondNanos, Int.fmod_eq_emod_of_nonneg n (by decide)]
  exact Int.toNat_of_nonneg nonneg

/-- The three ways to move: not between leap seconds, within one, and forwards out of one. -/
theorem plus_cases (t : Instant) (millis : Int) :
    ((t.nanos : Int) + millis * 1000000 < 1000000000 ∨ t.nanos < 1000000000) ∧
      t.plus millis = ofNanos (t.toNanos + millis * 1000000) ∨
    (1000000000 ≤ t.nanos ∧ 1000000000 ≤ (t.nanos : Int) + millis * 1000000 ∧
      (t.nanos : Int) + millis * 1000000 < 2000000000) ∧
      t.plus millis = ⟨t.seconds, (t.nanos + millis * 1000000).toNat⟩ ∨
    (1000000000 ≤ t.nanos ∧ 2000000000 ≤ (t.nanos : Int) + millis * 1000000) ∧
      t.plus millis = ofNanos (t.toNanos + millis * 1000000 - 1000000000) := by
  have outside : (t.nanos < secondNanos || t.nanos + millis * 1000000 < secondNanos) = true ↔
      t.nanos < 1000000000 ∨ (t.nanos : Int) + millis * 1000000 < 1000000000 := by
    rw [Bool.or_eq_true, decide_eq_true_eq, decide_eq_true_eq]
    exact Iff.rfl
  by_cases leaves : t.nanos < 1000000000 ∨ (t.nanos : Int) + millis * 1000000 < 1000000000
  · left
    refine ⟨leaves.symm, ?_⟩
    rw [plus, if_pos (outside.mpr leaves), toNanos, Int.add_assoc]
  · right
    rw [plus, if_neg (mt outside.mp leaves)]
    rw [not_or] at leaves
    by_cases stays : (t.nanos : Int) + millis * 1000000 < 2000000000
    · left
      exact ⟨⟨by omega, by omega, stays⟩, if_pos stays⟩
    · right
      refine ⟨⟨by omega, by omega⟩, (if_neg stays).trans (congrArg ofNanos ?_)⟩
      rw [toNanos, secondNanos]
      omega

theorem plus_of_ordinary (ordinary : t.IsOrdinary) (millis : Int) :
    t.plus millis = ofNanos (t.toNanos + millis * 1000000) := by
  obtain ⟨-, eq⟩ | ⟨⟨leap, -⟩, -⟩ | ⟨⟨leap, -⟩, -⟩ := plus_cases t millis
  · exact eq
  · exact absurd ordinary (Nat.not_lt.mpr leap)
  · exact absurd ordinary (Nat.not_lt.mpr leap)

theorem isOrdinary_ofNanos (n : Int) : (ofNanos n).IsOrdinary := by
  have eq := nanos_ofNanos n
  rw [IsOrdinary, secondNanos]
  omega

theorem toNanos_ofNanos (n : Int) : (ofNanos n).toNanos = n := by
  rw [toNanos, seconds_ofNanos, nanos_ofNanos, secondNanos]
  omega

/-- Moving further does not lead to an earlier instant. -/
theorem plus_mono (fraction : t.nanos < 2 * secondNanos) {m n : Int} (le : m ≤ n) :
    ¬ (t.plus n).before (t.plus m) = true := by
  rw [before_iff]
  have seconds := seconds_ofNanos
  have nanos := nanos_ofNanos
  simp only [secondNanos] at fraction
  obtain ⟨near, eqm⟩ | ⟨near, eqm⟩ | ⟨near, eqm⟩ := plus_cases t m <;>
    obtain ⟨far, eqn⟩ | ⟨far, eqn⟩ | ⟨far, eqn⟩ := plus_cases t n <;>
    rw [eqm, eqn] <;>
    simp only [toNanos, secondNanos, seconds, ← Int.ofNat_lt, nanos] <;>
    omega

/-- The seconds of a moved instant, up to one. -/
theorem seconds_plus_bounds (fraction : t.nanos < 2 * secondNanos) (millis : Int) :
    t.seconds + millis / 1000 ≤ (t.plus millis).seconds + 1 ∧
      (t.plus millis).seconds ≤ t.seconds + millis / 1000 + 3 := by
  have seconds := seconds_ofNanos
  simp only [secondNanos] at fraction
  obtain ⟨near, eq⟩ | ⟨near, eq⟩ | ⟨near, eq⟩ := plus_cases t millis <;>
    rw [eq] <;>
    simp only [toNanos, secondNanos, seconds] <;>
    omega

/-- An offset at the lower end of the 64-bit range leaves the calendar in any case, so that a move
fails exactly if its end belongs to no date. -/
theorem shift?_eq (valid : t.IsValid) (offset : Int) (backwards : Bool) :
    t.shift? offset backwards =
      if (t.plus (if backwards then -offset else offset)).inRange then
        some (t.plus (if backwards then -offset else offset))
      else none := by
  rw [shift?]
  by_cases extreme : offset < -0x7FFFFFFFFFFFFFFF
  · rw [if_pos extreme, if_neg]
    have start := inRange_iff.mp valid.dated
    have bounds := seconds_plus_bounds valid.fraction (if backwards then -offset else offset)
    rw [inRange_iff]
    simp only [IsTooEarly, IsTooLate, daySeconds, minDay_eq, maxDay_eq] at start ⊢
    cases backwards with
    | true => rw [if_pos rfl] at bounds ⊢; omega
    | false => rw [if_neg Bool.false_ne_true] at bounds ⊢; omega
  · rw [if_neg extreme]

theorem toNanos_plus (ordinary : t.IsOrdinary) (millis : Int) :
    (t.plus millis).toNanos = t.toNanos + millis * 1000000 := by
  rw [plus_of_ordinary ordinary, toNanos_ofNanos]

theorem isOrdinary_plus (ordinary : t.IsOrdinary) (millis : Int) : (t.plus millis).IsOrdinary := by
  rw [plus_of_ordinary ordinary]
  exact isOrdinary_ofNanos _

theorem IsTooEarly.before_first (early : t.IsTooEarly) : t.before first = true :=
  before_iff.mpr (.inl early)

theorem not_before_first (dated : ¬ t.IsTooEarly) : ¬ t.before first = true := by
  rw [before_iff]
  rw [IsTooEarly] at dated
  simp only [first]
  omega

theorem IsTooLate.last_before (late : t.IsTooLate) : last.before t = true := by
  rw [before_iff]
  rw [IsTooLate] at late
  simp only [last, daySeconds] at late ⊢
  omega

end DocLint.Calendar.Instant
