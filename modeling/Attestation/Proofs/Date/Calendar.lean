import Attestation.Date

namespace Attestation

namespace Date

theorem ofParts?_eq_some_iff {year : Int} {month day : Nat} {d : Date} :
    ofParts? year month day = some d ↔ d.year = year ∧ d.month = month ∧ d.day = day := by
  constructor
  · intro named
    unfold ofParts? at named
    split at named
    · cases named
      exact ⟨rfl, rfl, rfl⟩
    · cases named
  · intro same
    obtain ⟨rfl, rfl, rfl⟩ := same
    exact ofParts?_self d

theorem month_le (d : Date) : d.month ≤ 12 := by
  obtain ⟨-, -, first, last⟩ := d.valid
  refine Nat.le_of_not_lt fun late => ?_
  have empty : monthLength d.year d.month = 0 := by
    unfold monthLength
    split <;> first | rfl | omega
  omega

theorem day_le (d : Date) : d.day ≤ 31 := by
  have longest : monthLength d.year d.month ≤ 31 := by
    unfold monthLength
    repeat' split
    all_goals omega
  exact Nat.le_trans d.valid.2.2.2 longest

theorem monthLength_pos (year : Int) {month : Nat} (first : 1 ≤ month) (last : month ≤ 12) :
    1 ≤ monthLength year month := by
  unfold monthLength
  repeat' split
  case h_13 => simp only [imp_false] at *; omega
  all_goals omega

/-! ## The days before a year and before a month -/

def yearLength (year : Int) : Int := if isLeapYear year then 366 else 365

theorem daysBeforeYear_next (year : Int) :
    daysBeforeYear (year + 1) = daysBeforeYear year + yearLength year := by
  unfold daysBeforeYear yearLength isLeapYear
  split
  all_goals
    rename_i leap
    simp only [Bool.and_eq_true, Bool.or_eq_true, beq_iff_eq, bne_iff_ne] at leap
    omega

theorem daysBeforeYear_mono {first last : Int} (order : first ≤ last) :
    daysBeforeYear first ≤ daysBeforeYear last := by
  unfold daysBeforeYear
  omega

theorem daysBeforeMonth_mono (year : Int) {first last : Nat} (order : first ≤ last) :
    daysBeforeMonth year first ≤ daysBeforeMonth year last := by
  induction order with
  | refl => exact Nat.le_refl _
  | step _ ih => exact Nat.le_trans ih (Nat.le_add_right _ _)

theorem daysBeforeMonth_one (year : Int) : daysBeforeMonth year 1 = 0 := rfl

theorem daysBeforeMonth_thirteen (year : Int) :
    (daysBeforeMonth year 13 : Int) = yearLength year := by
  unfold yearLength
  cases leap : isLeapYear year <;> simp [daysBeforeMonth, monthLength, leap]

theorem daysBeforeMonth_lt (d : Date) :
    daysBeforeMonth d.year d.month < daysBeforeMonth d.year d.month + d.day :=
  Nat.lt_add_of_pos_right d.valid.2.2.1

theorem daysBeforeMonth_add_day_le (d : Date) :
    daysBeforeMonth d.year d.month + d.day ≤ daysBeforeMonth d.year (d.month + 1) :=
  Nat.add_le_add_left d.valid.2.2.2 _

theorem dayNumber_bounds (d : Date) :
    daysBeforeYear d.year < d.dayNumber ∧ d.dayNumber ≤ daysBeforeYear (d.year + 1) := by
  have above := d.daysBeforeMonth_lt
  have below := d.daysBeforeMonth_add_day_le
  have december := daysBeforeMonth_mono d.year (Nat.succ_le_succ d.month_le)
  have whole := daysBeforeMonth_thirteen d.year
  rw [daysBeforeYear_next, dayNumber]
  simp only [Nat.succ_eq_add_one, Nat.reduceAdd] at december
  omega

/-! ## The order of the calendar -/

def Precedes (a b : Date) : Prop :=
  a.year < b.year ∨
    a.year = b.year ∧ (a.month < b.month ∨ a.month = b.month ∧ a.day < b.day)

instance (a b : Date) : Decidable (Precedes a b) := inferInstanceAs (Decidable (_ ∨ _))

def earlier (a b : Date) : Date := if b.Precedes a then b else a
def later (a b : Date) : Date := if b.Precedes a then a else b

theorem precedes_trichotomy (a b : Date) : a.Precedes b ∨ a = b ∨ b.Precedes a := by
  obtain ⟨y₁, m₁, d₁, _⟩ := a
  obtain ⟨y₂, m₂, d₂, _⟩ := b
  simp only [Precedes, mk.injEq]
  omega

theorem dayNumber_lt_of_precedes {a b : Date} (before : a.Precedes b) :
    a.dayNumber < b.dayNumber := by
  rcases before with year | ⟨sameYear, month | ⟨sameMonth, day⟩⟩
  · have apart : daysBeforeYear (a.year + 1) ≤ daysBeforeYear b.year := daysBeforeYear_mono year
    have last := a.dayNumber_bounds.2
    have first := b.dayNumber_bounds.1
    omega
  · have apart := daysBeforeMonth_mono a.year month
    have last := a.daysBeforeMonth_add_day_le
    have first := b.daysBeforeMonth_lt
    rw [dayNumber, dayNumber, ← sameYear]
    rw [← sameYear] at first
    simp only [Nat.succ_eq_add_one] at apart
    omega
  · rw [dayNumber, dayNumber, sameYear, sameMonth]
    omega

theorem dayNumber_injective {a b : Date} (same : a.dayNumber = b.dayNumber) : a = b := by
  rcases precedes_trichotomy a b with before | equal | after
  · have apart := dayNumber_lt_of_precedes before
    omega
  · exact equal
  · have apart := dayNumber_lt_of_precedes after
    omega

theorem dayNumber_later_sub_earlier (a b : Date) :
    (a.later b).dayNumber - (a.earlier b).dayNumber = a.distance b := by
  unfold later earlier distance
  rcases precedes_trichotomy a b with before | rfl | after
  · have apart := dayNumber_lt_of_precedes before
    have notAfter : ¬ b.Precedes a := by
      intro after
      have apart := dayNumber_lt_of_precedes after
      omega
    rw [if_neg notAfter, if_neg notAfter]
    omega
  · simp
  · have apart := dayNumber_lt_of_precedes after
    rw [if_pos after, if_pos after]
    omega

/-! ## Steps of one day -/

theorem dayNumber_next {d e : Date} (next : d.next? = some e) :
    e.dayNumber = d.dayNumber + 1 := by
  have last := d.valid.2.2.2
  unfold next? at next
  split at next
  · obtain ⟨sameYear, sameMonth, nextDay⟩ := ofParts?_eq_some_iff.mp next
    rw [dayNumber, dayNumber, sameYear, sameMonth, nextDay]
    omega
  · rename_i monthEnds
    split at next
    · obtain ⟨sameYear, nextMonth, first⟩ := ofParts?_eq_some_iff.mp next
      rw [dayNumber, dayNumber, sameYear, nextMonth, first, daysBeforeMonth]
      omega
    · rename_i yearEnds
      obtain ⟨nextYear, january, first⟩ := ofParts?_eq_some_iff.mp next
      have december : d.month = 12 := Nat.le_antisymm d.month_le (by omega)
      have whole := daysBeforeMonth_thirteen d.year
      rw [daysBeforeMonth, ← december] at whole
      rw [dayNumber, dayNumber, nextYear, january, first, daysBeforeMonth_one,
        daysBeforeYear_next]
      omega

theorem dayNumber_of_next?_eq_none {d : Date} (final : d.next? = none) :
    d.dayNumber = daysBeforeYear (lastYear + 1) := by
  obtain ⟨firstYear, lastYear, first, last⟩ := d.valid
  have unnamed {year : Int} {month day : Nat} (none : ofParts? year month day = none) :
      ¬ Valid year month day := by
    intro valid
    rw [ofParts?, dif_pos valid] at none
    cases none
  unfold next? at final
  split at final
  · rename_i inside
    exact absurd ⟨firstYear, lastYear, by omega, inside⟩ (unnamed final)
  · rename_i monthEnds
    split at final
    · rename_i inside
      have start := monthLength_pos d.year (Nat.le_add_left 1 d.month) inside
      exact absurd ⟨firstYear, lastYear, by omega, start⟩ (unnamed final)
    · rename_i yearEnds
      have december : d.month = 12 := Nat.le_antisymm d.month_le (by omega)
      have finalYear : d.year = Date.lastYear := by
        apply Decidable.byContradiction
        intro inside
        have start := monthLength_pos (d.year + 1) (Nat.le_refl 1) (by decide)
        exact unnamed final ⟨by omega, by omega, by omega, start⟩
      have whole := daysBeforeMonth_thirteen d.year
      rw [daysBeforeMonth, ← december] at whole
      rw [dayNumber, ← finalYear, daysBeforeYear_next]
      omega

theorem exists_next_of_dayNumber_lt {d e : Date} (before : d.dayNumber < e.dayNumber) :
    ∃ next, d.next? = some next := by
  cases step : d.next? with
  | some next => exact ⟨next, rfl⟩
  | none =>
    have final := dayNumber_of_next?_eq_none step
    have limit : daysBeforeYear (e.year + 1) ≤ daysBeforeYear (lastYear + 1) :=
      daysBeforeYear_mono (Int.add_le_add_right e.valid.2.1 1)
    have below := e.dayNumber_bounds.2
    omega

def after? (d : Date) : Nat → Option Date
  | 0 => some d
  | steps + 1 => d.next?.bind fun next => next.after? steps

/-- The days are numbered in the order in which they are stepped through, across the ends of months,
leap years and centuries and on both sides of year 0. -/
theorem after?_eq_some_iff {a b : Date} {steps : Nat} :
    a.after? steps = some b ↔ b.dayNumber = a.dayNumber + steps := by
  induction steps generalizing a with
  | zero =>
    rw [after?, Option.some.injEq, Int.natCast_zero, Int.add_zero]
    constructor
    · intro same
      rw [same]
    · intro same
      exact dayNumber_injective same.symm
  | succ steps ih =>
    rw [after?, Option.bind_eq_some_iff]
    constructor
    · intro path
      obtain ⟨c, next, rest⟩ := path
      rw [ih.mp rest, dayNumber_next next]
      omega
    · intro reached
      obtain ⟨c, next⟩ := exists_next_of_dayNumber_lt (show a.dayNumber < b.dayNumber by omega)
      refine ⟨c, next, ih.mpr ?_⟩
      rw [reached, dayNumber_next next]
      omega

example : (Date.mk (-1) 12 31 (by decide)).after? 60 = some ⟨0, 2, 29, by decide⟩ := by decide

theorem distance_le_iff (a b : Date) (limit : Nat) :
    a.distance b ≤ limit ↔ ∃ steps ≤ limit, (a.earlier b).after? steps = some (a.later b) := by
  have gap := dayNumber_later_sub_earlier a b
  simp only [after?_eq_some_iff]
  constructor
  · intro near
    exact ⟨a.distance b, near, by omega⟩
  · intro path
    obtain ⟨steps, few, reached⟩ := path
    omega

end Date

end Attestation
