import Attestation.AttributeChecker

namespace Attestation

namespace Requirements

def TextMet (required disclosed : Option String) : Prop :=
  ∀ text, required = some text → disclosed = some text

def AgeMet (minimum disclosed : Option UInt32) : Prop :=
  ∀ least, minimum = some least → ∃ age, disclosed = some age ∧ least ≤ age

def DateMet (required : Bool) (disclosed : Option Date) (today : Date) (days : Int) : Prop :=
  required = true → ∃ day, disclosed = some day ∧ (day.distance today : Int) ≤ max 0 days

def CountriesMet (required : List String) (disclosed : Option (List String)) : Prop :=
  required ≠ [] → ∃ listed, disclosed = some listed ∧ ∀ country ∈ required, country ∈ listed

/-- Every attribute that is required is revealed and meets its requirement, the current date within
the given days of today. -/
structure Met (r : Requirements) (d : Disclosed) (today : Date) (days : Int) : Prop where
  scope : TextMet r.scope d.scope
  attestationId : TextMet r.attestationId d.attestationId
  currentDate : DateMet r.currentDate d.currentDate today days
  issuingState : TextMet r.issuingState d.issuingState
  name : TextMet r.name d.name
  passportNumber : TextMet r.passportNumber d.passportNumber
  nationality : TextMet r.nationality d.nationality
  dateOfBirth : TextMet r.dateOfBirth d.dateOfBirth
  gender : TextMet r.gender d.gender
  expiryDate : TextMet r.expiryDate d.expiryDate
  olderThan : AgeMet r.minimumAge d.olderThan
  ownerOf : TextMet r.ownerOf d.ownerOf
  forbiddenCountries : CountriesMet r.forbiddenCountries d.forbiddenCountries

end Requirements

open Requirements

@[simp] theorem Verdict.ensure_eq_pass_iff (ok : Bool) (actual expected : Value) :
    ensure ok actual expected = .pass ↔ ok = true := by
  cases ok <;> simp [ensure]

namespace AttributeChecker

theorem ascending_evaluate (checker : AttributeChecker) (d : Disclosed)
    (r : Requirements) (today : Date) :
    (checker.evaluate d r today).Pairwise fun a b => compare a.1 b.1 = .lt := by
  have checks : (checks.Pairwise fun a b => compare a b = .lt) := by decide
  rw [← map_fst_evaluate checker d r today, List.pairwise_map] at checks
  exact checks

theorem sameText_eq_pass_iff (disclosed required : Option String) :
    sameText disclosed required = .pass ↔ TextMet required disclosed := by
  cases required with
  | none => simp [sameText, TextMet]
  | some text => cases disclosed <;> simp [sameText, TextMet, Verdict.expectEq]

theorem oldEnough_eq_pass_iff (disclosed minimum : Option UInt32) :
    oldEnough disclosed minimum = .pass ↔ AgeMet minimum disclosed := by
  cases minimum with
  | none => simp [oldEnough, AgeMet]
  | some least => cases disclosed <;> simp [oldEnough, AgeMet]

theorem allForbidden_eq_pass_iff (disclosed : Option (List String)) (required : List String) :
    allForbidden disclosed required = .pass ↔ CountriesMet required disclosed := by
  cases required with
  | nil => simp [allForbidden, CountriesMet]
  | cons country rest => cases disclosed <;> simp [allForbidden, CountriesMet]

theorem nearToday_eq_pass_iff (days : Int64) (disclosed : Option Date) (required : Bool)
    (today : Date) :
    (ofDays days).nearToday disclosed required today = .pass ↔
      DateMet required disclosed today days.toInt := by
  cases required with
  | false => simp [nearToday, DateMet]
  | true =>
    cases disclosed with
    | none => simp [nearToday, DateMet]
    | some day =>
      have clamped : day.distance today ≤ days.toInt.toNat ↔
          (day.distance today : Int) ≤ max 0 days.toInt := by
        omega
      simpa [nearToday, DateMet, ofDays] using clamped

theorem evaluate_passes_iff (days : Int64) (d : Disclosed) (r : Requirements) (today : Date) :
    (∀ entry ∈ (ofDays days).evaluate d r today, entry.2 = .pass) ↔ r.Met d today days.toInt := by
  simp only [evaluate, List.forall_mem_cons, List.not_mem_nil, false_implies, implies_true,
    and_true, sameText_eq_pass_iff, oldEnough_eq_pass_iff, allForbidden_eq_pass_iff,
    nearToday_eq_pass_iff]
  constructor
  · rintro ⟨scope, attestationId, currentDate, issuingState, name, passportNumber, nationality,
      dateOfBirth, gender, expiryDate, olderThan, ownerOf, forbiddenCountries⟩
    exact ⟨scope, attestationId, currentDate, issuingState, name, passportNumber, nationality,
      dateOfBirth, gender, expiryDate, olderThan, ownerOf, forbiddenCountries⟩
  · intro met
    exact ⟨met.scope, met.attestationId, met.currentDate, met.issuingState, met.name,
      met.passportNumber, met.nationality, met.dateOfBirth, met.gender, met.expiryDate,
      met.olderThan, met.ownerOf, met.forbiddenCountries⟩

end AttributeChecker

end Attestation
