import Attestation.Proofs.AttributeChecker
import Attestation.Proofs.Date.Calendar

namespace Attestation

namespace Date

/-- A span of whole days as a word of 64 bits. It has to fit into one as a count of milliseconds. -/
def span? (days : Int) : Option Int64 :=
  if (days * 86400000).natAbs ≤ Int64.maxValue.toInt then some (Int64.ofInt days) else none

def magnitude? (word : Int64) : Option Int64 :=
  if word = Int64.minValue then none else some (if word < 0 then -word else word)

/-- How far a day drifts from today, as it is computed in words. -/
def drift? (day today : Date) : Option Int64 :=
  (span? (day.dayNumber - today.dayNumber)).bind magnitude?

theorem distance_lt (a b : Date) : a.distance b < 192000000 := by
  have limits (d : Date) : -96000000 < d.dayNumber ∧ d.dayNumber < 96000000 := by
    obtain ⟨above, below⟩ := d.dayNumber_bounds
    have first := daysBeforeYear_mono d.valid.1
    have last := daysBeforeYear_mono (Int.add_le_add_right d.valid.2.1 1)
    have start : daysBeforeYear firstYear = -95745764 := by decide
    have finish : daysBeforeYear (lastYear + 1) = 95745765 := by decide
    omega
  have left := limits a
  have right := limits b
  rw [distance]
  omega

theorem exists_span {days : Int} (few : days.natAbs < 192000000) :
    ∃ word, span? days = some word ∧ word.toInt = days := by
  have greatest := Int64.toInt_maxValue
  refine ⟨Int64.ofInt days, if_pos ?_, Int64.toInt_ofInt_of_le ?_ ?_⟩
  all_goals omega

theorem exists_magnitude {word : Int64} (other : word ≠ Int64.minValue) :
    ∃ size, magnitude? word = some size ∧ size.toInt = word.toInt.natAbs := by
  have least := Int64.toInt_minValue
  have greatest := Int64.toInt_maxValue
  have above := word.minValue_le_toInt
  have below := word.toInt_le
  have notLeast : word.toInt ≠ Int64.minValue.toInt := mt Int64.toInt_inj.mp other
  refine ⟨_, if_neg other, ?_⟩
  by_cases negative : word < 0
  · rw [if_pos negative, Int64.toInt_neg, Int.bmod_eq_of_le]
    all_goals
      rw [Int64.lt_iff_toInt_lt, Int64.toInt_zero] at negative
      omega
  · rw [if_neg negative]
    rw [Int64.lt_iff_toInt_lt, Int64.toInt_zero] at negative
    omega

theorem exists_drift (day today : Date) :
    ∃ drift, drift? day today = some drift ∧ drift.toInt = day.distance today := by
  have near := distance_lt day today
  obtain ⟨span, spanned, exact⟩ := exists_span near
  have inRange : span ≠ Int64.minValue := by
    intro least
    have bound := Int64.toInt_minValue
    rw [← least, exact] at bound
    rw [distance] at near
    omega
  obtain ⟨drift, measured, size⟩ := exists_magnitude inRange
  refine ⟨drift, ?_, ?_⟩
  · rw [drift?, spanned, Option.bind_some, measured]
  · rw [size, exact, distance]

end Date

namespace AttributeChecker

theorem toInt_clamped (days : Int64) : (if days < 0 then 0 else days).toInt = max 0 days.toInt := by
  by_cases negative : days < 0
  · rw [if_pos negative, Int64.toInt_zero]
    rw [Int64.lt_iff_toInt_lt, Int64.toInt_zero] at negative
    omega
  · rw [if_neg negative]
    rw [Int64.lt_iff_toInt_lt, Int64.toInt_zero] at negative
    omega

/-- A current date that is required and revealed passes exactly when the later of it and today is
reached from the earlier in at most as many steps of one day as are tolerated, whichever of the two
is the later. The comparison in words of 64 bits gives the same verdict, and never overflows. -/
theorem currentDate_passes_within_window (days : Int64) (d : Disclosed) (r : Requirements)
    (day today : Date) :
    let verdict (day today : Date) : Option Verdict :=
      ((ofDays days).evaluate { d with currentDate := some day } { r with currentDate := true }
        today).lookup .currentDate
    (verdict day today = some .pass ↔
      ∃ steps : Nat, (steps : Int) ≤ max 0 days.toInt ∧
        (day.earlier today).after? steps = some (day.later today)) ∧
    (verdict day today = some .pass ↔ verdict today day = some .pass) ∧
    ∃ drift limit : Int64, Date.drift? day today = some drift ∧ Date.drift? today day = some drift ∧
      limit.toInt = max 0 days.toInt ∧
      verdict day today = some (.ensure (drift ≤ limit) (.date day) (.date today)) := by
  intro verdict
  have compared (day today : Date) : verdict day today =
      some (.ensure (day.distance today ≤ days.toInt.toNat) (.date day) (.date today)) := rfl
  have passes (day today : Date) : verdict day today = some .pass ↔
      day.distance today ≤ days.toInt.toNat := by
    rw [compared, Option.some.injEq, Verdict.ensure_eq_pass_iff, decide_eq_true_eq]
  refine ⟨?_, ?_, ?_⟩
  · rw [passes, Date.distance_le_iff]
    apply exists_congr
    intro steps
    apply and_congr_left'
    omega
  · rw [passes, passes, Date.distance_comm]
  · obtain ⟨drift, computed, size⟩ := Date.exists_drift day today
    obtain ⟨back, computedBack, sizeBack⟩ := Date.exists_drift today day
    have same : back = drift := by
      apply Int64.toInt_inj.mp
      rw [sizeBack, size, Date.distance_comm]
    refine ⟨drift, _, computed, same ▸ computedBack, toInt_clamped days, ?_⟩
    rw [compared, Option.some.injEq]
    congr 1
    rw [decide_eq_decide, Int64.le_iff_toInt_le, size, toInt_clamped]
    omega

end AttributeChecker

end Attestation
