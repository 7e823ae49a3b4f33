import Attestation.Proofs.AttributeChecker

namespace Attestation

def Disclosed.shown? (d : Disclosed) : Check → Option Value
  | .scope => d.scope.map .text
  | .attestationId => d.attestationId.map .text
  | .currentDate => d.currentDate.map .date
  | .issuingState => d.issuingState.map .text
  | .name => d.name.map .text
  | .passportNumber => d.passportNumber.map .text
  | .nationality => d.nationality.map .text
  | .dateOfBirth => d.dateOfBirth.map .text
  | .gender => d.gender.map .text
  | .expiryDate => d.expiryDate.map .text
  | .olderThan => d.olderThan.map .ofUInt32
  | .ownerOf => d.ownerOf.map .text
  | .forbiddenCountriesList => d.forbiddenCountries.map .list
  | .merkleRootCommitment | .merkleRootCsca | .blindedDscCommitment | .proof | .dscProof | .dsc
  | .pubKey | .ofac => none

def Requirements.demanded? (r : Requirements) (today : Date) : Check → Option Value
  | .scope => r.scope.map .text
  | .attestationId => r.attestationId.map .text
  | .currentDate => if r.currentDate then some (.date today) else none
  | .issuingState => r.issuingState.map .text
  | .name => r.name.map .text
  | .passportNumber => r.passportNumber.map .text
  | .nationality => r.nationality.map .text
  | .dateOfBirth => r.dateOfBirth.map .text
  | .gender => r.gender.map .text
  | .expiryDate => r.expiryDate.map .text
  | .olderThan => r.minimumAge.map .ofUInt32
  | .ownerOf => r.ownerOf.map .text
  | .forbiddenCountriesList =>
    if r.forbiddenCountries = [] then none else some (.list r.forbiddenCountries)
  | .merkleRootCommitment | .merkleRootCsca | .blindedDscCommitment | .proof | .dscProof | .dsc
  | .pubKey | .ofac => none

def Value.Meets (days : Int64) : Value → Value → Prop
  | .text shown, .text demanded => shown = demanded
  | .date day, .date today => (day.distance today : Int) ≤ max 0 days.toInt
  | .integer number, .integer least => least ≤ number
  | .list items, .list demanded => ∀ item ∈ demanded, item ∈ items
  | _, _ => False

/-- The verdict on one attribute: it passes if nothing is demanded or the demand is met, and
otherwise it fails over what was shown. -/
def Verdict.Follows (days : Int64) (shown demanded : Option Value) : Verdict → Prop
  | .pass => ∀ expected, demanded = some expected →
      ∃ value, shown = some value ∧ value.Meets days expected
  | .fail actual expected => demanded = some expected ∧ actual = shown.getD .empty ∧
      ¬ ∃ value, shown = some value ∧ value.Meets days expected

namespace Verdict

variable {days : Int64} {shown demanded : Option Value}

theorem Follows.unique {left right : Verdict} (first : left.Follows days shown demanded)
    (second : right.Follows days shown demanded) : left = right := by
  cases left with
  | pass =>
    cases right with
    | pass => rfl
    | fail actual expected => exact absurd (first expected second.1) second.2.2
  | fail actual expected =>
    cases right with
    | pass => exact absurd (second expected first.1) first.2.2
    | fail observed wanted =>
      have sameActual : actual = observed := first.2.1.trans second.2.1.symm
      have sameExpected := Option.some.inj (first.1.symm.trans second.1)
      rw [sameActual, sameExpected]

theorem follows_unset : Follows days shown none .pass := by
  intro expected demanded
  cases demanded

theorem follows_undisclosed (expected : Value) :
    Follows days none (some expected) (.fail .empty expected) :=
  ⟨rfl, rfl, by simp⟩

theorem follows_ensure {ok : Bool} {actual expected : Value}
    (met : ok = true ↔ actual.Meets days expected) :
    Follows days (some actual) (some expected) (ensure ok actual expected) := by
  cases ok with
  | true =>
    rintro _ ⟨⟩
    exact ⟨actual, rfl, met.mp rfl⟩
  | false =>
    refine ⟨rfl, rfl, ?_⟩
    rintro ⟨_, ⟨⟩, enough⟩
    exact absurd (met.mpr enough) (by decide)

end Verdict

open Verdict

theorem Value.ofUInt32_meets_iff (days : Int64) (number least : UInt32) :
    (Value.ofUInt32 number).Meets days (.ofUInt32 least) ↔ least ≤ number := by
  have whole (n : UInt32) : (Int64.ofNat n.toNat).toInt = n.toNat := by
    have bound := n.toNat_lt
    exact Int64.toInt_ofNat_of_lt (by omega)
  simp only [ofUInt32, Meets, Int64.le_iff_toInt_le, whole, UInt32.le_iff_toNat_le]
  omega

namespace AttributeChecker

variable (days : Int64)

theorem follows_sameText (disclosed required : Option String) :
    Follows days (disclosed.map .text) (required.map .text) (sameText disclosed required) := by
  cases required with
  | none => exact follows_unset
  | some expected =>
    cases disclosed with
    | none => exact follows_undisclosed _
    | some actual => exact follows_ensure decide_eq_true_iff

theorem follows_oldEnough (disclosed minimum : Option UInt32) :
    Follows days (disclosed.map .ofUInt32) (minimum.map .ofUInt32)
      (oldEnough disclosed minimum) := by
  cases minimum with
  | none => exact follows_unset
  | some least =>
    cases disclosed with
    | none => exact follows_undisclosed _
    | some age =>
      have met := (Value.ofUInt32_meets_iff days age least).symm
      exact follows_ensure (decide_eq_true_iff.trans met)

theorem follows_allForbidden (disclosed : Option (List String)) (required : List String) :
    Follows days (disclosed.map .list) (if required = [] then none else some (.list required))
      (allForbidden disclosed required) := by
  cases required with
  | nil => exact follows_unset
  | cons country rest =>
    cases disclosed with
    | none => exact follows_undisclosed _
    | some forbidden => exact follows_ensure (by simp [Value.Meets])

theorem follows_nearToday (disclosed : Option Date) (required : Bool) (today : Date) :
    Follows days (disclosed.map .date) (if required then some (.date today) else none)
      ((ofDays days).nearToday disclosed required today) := by
  cases required with
  | false => exact follows_unset
  | true =>
    cases disclosed with
    | none => exact follows_undisclosed _
    | some day =>
      refine follows_ensure (decide_eq_true_iff.trans ?_)
      simp only [ofDays, Value.Meets]
      omega

variable (d : Disclosed) (r : Requirements) (today : Date)

theorem follows_of_mem_evaluate :
    ∀ entry ∈ (ofDays days).evaluate d r today,
      entry.2.Follows days (d.shown? entry.1) (r.demanded? today entry.1) := by
  have text := follows_sameText days
  simp only [evaluate, List.forall_mem_cons, Disclosed.shown?, Requirements.demanded?]
  refine ⟨text _ _, text _ _, ?_, text _ _, text _ _, text _ _, text _ _, text _ _, text _ _,
    text _ _, ?_, text _ _, ?_, ?_⟩
  · exact follows_nearToday days d.currentDate r.currentDate today
  · exact follows_oldEnough days d.olderThan r.minimumAge
  · exact follows_allForbidden days d.forbiddenCountries r.forbiddenCountries
  · simp

theorem mem_evaluate_iff (c : Check) (verdict : Verdict) :
    (c, verdict) ∈ (ofDays days).evaluate d r today ↔
      c ∈ checks ∧ verdict.Follows days (d.shown? c) (r.demanded? today c) := by
  have listed := map_fst_evaluate (ofDays days) d r today
  constructor
  · intro member
    refine ⟨?_, follows_of_mem_evaluate days d r today _ member⟩
    rw [← listed]
    exact List.mem_map_of_mem member
  · rintro ⟨decided, follows⟩
    rw [← listed] at decided
    obtain ⟨⟨check, given⟩, member, rfl⟩ := List.mem_map.mp decided
    have also := follows_of_mem_evaluate days d r today _ member
    rwa [← also.unique follows]

theorem allForbidden_passes_iff :
    (.forbiddenCountriesList, .pass) ∈ (ofDays days).evaluate d r today ↔
      ∀ country ∈ r.forbiddenCountries, country ∈ d.forbiddenCountries.getD [] := by
  have decided : Check.forbiddenCountriesList ∈ checks := by decide
  rw [mem_evaluate_iff]
  simp only [decided, true_and, Follows, Requirements.demanded?, Disclosed.shown?]
  cases r.forbiddenCountries with
  | nil => simp
  | cons country rest =>
    cases d.forbiddenCountries with
    | none => simpa using ⟨country, fun other => absurd rfl other⟩
    | some forbidden => simp [Value.Meets]

/-- There is one verdict for each attribute, in the order of the checks, and it is settled by this
attribute and its own requirement: it passes if nothing is required or the requirement is met, and
fails otherwise over the requirement and what was revealed. Of the countries only the two sets
count. -/
theorem evaluate_compares_each_attribute :
    ((ofDays days).evaluate d r today).map (·.1) = checks ∧
    (∀ c ∈ checks, (c, .pass) ∈ (ofDays days).evaluate d r today ↔
      r.demanded? today c = none ∨ ∃ expected value, r.demanded? today c = some expected ∧
        d.shown? c = some value ∧ value.Meets days expected) ∧
    (∀ c ∈ checks, ∀ actual expected,
      (c, .fail actual expected) ∈ (ofDays days).evaluate d r today ↔
        r.demanded? today c = some expected ∧ actual = (d.shown? c).getD .empty ∧
          ¬ ∃ value, d.shown? c = some value ∧ value.Meets days expected) ∧
    (∀ (revealed : Disclosed) (required : Requirements) (c : Check),
      revealed.shown? c = d.shown? c → required.demanded? today c = r.demanded? today c →
        ∀ verdict, (c, verdict) ∈ (ofDays days).evaluate revealed required today ↔
          (c, verdict) ∈ (ofDays days).evaluate d r today) ∧
    ((.forbiddenCountriesList, .pass) ∈ (ofDays days).evaluate d r today ↔
      ∀ country ∈ r.forbiddenCountries, country ∈ d.forbiddenCountries.getD []) ∧
    ∀ (revealed : Disclosed) (required : Requirements),
      (∀ country, country ∈ revealed.forbiddenCountries.getD [] ↔
        country ∈ d.forbiddenCountries.getD []) →
      (∀ country, country ∈ required.forbiddenCountries ↔ country ∈ r.forbiddenCountries) →
        ((.forbiddenCountriesList, .pass) ∈ (ofDays days).evaluate revealed required today ↔
          (.forbiddenCountriesList, .pass) ∈ (ofDays days).evaluate d r today) := by
  refine ⟨map_fst_evaluate _ d r today, ?_, ?_, ?_, allForbidden_passes_iff days d r today, ?_⟩
  · intro c decided
    rw [mem_evaluate_iff]
    cases demanded : r.demanded? today c <;> simp [decided, Follows]
  · intro c decided actual expected
    rw [mem_evaluate_iff]
    simp only [decided, true_and, Follows]
  · intro revealed required c sameShown sameDemanded verdict
    rw [mem_evaluate_iff, mem_evaluate_iff, sameShown, sameDemanded]
  · intro revealed required sameShown sameRequired
    simp only [allForbidden_passes_iff, sameShown, sameRequired]

end AttributeChecker

end Attestation
