import Attestation.Check
import Attestation.Requirements
import Attestation.Verdict

namespace Attestation

structure AttributeChecker where
  tolerance : Nat

namespace AttributeChecker

/-- A negative tolerance counts as none. -/
def ofDays (days : Int64) : AttributeChecker := ⟨days.toInt.toNat⟩

instance : Inhabited AttributeChecker := ⟨ofDays 1⟩

def checks : List Check :=
  [.scope, .attestationId, .currentDate, .issuingState, .name, .passportNumber, .nationality,
    .dateOfBirth, .gender, .expiryDate, .olderThan, .ownerOf, .forbiddenCountriesList]

def sameText (disclosed required : Option String) : Verdict :=
  match disclosed, required with
  | _, none => .pass
  | none, some expected => .fail .empty (.text expected)
  | some actual, some expected => .expectEq .text actual expected

def oldEnough (disclosed minimum : Option UInt32) : Verdict :=
  match disclosed, minimum with
  | _, none => .pass
  | none, some least => .fail .empty (.ofUInt32 least)
  | some age, some least => .ensure (least ≤ age) (.ofUInt32 age) (.ofUInt32 least)

def allForbidden (disclosed : Option (List String)) (required : List String) : Verdict :=
  if required.isEmpty then .pass
  else match disclosed with
    | none => .fail .empty (.list required)
    | some forbidden => .ensure (required.all forbidden.contains) (.list forbidden) (.list required)

def nearToday (checker : AttributeChecker) (disclosed : Option Date) (required : Bool)
    (today : Date) : Verdict :=
  if required then
    match disclosed with
    | none => .fail .empty (.date today)
    | some day => .ensure (day.distance today ≤ checker.tolerance) (.date day) (.date today)
  else .pass

def evaluate (checker : AttributeChecker) (d : Disclosed) (r : Requirements) (today : Date) :
    List (Check × Verdict) :=
  [(.scope, sameText d.scope r.scope),
    (.attestationId, sameText d.attestationId r.attestationId),
    (.currentDate, checker.nearToday d.currentDate r.currentDate today),
    (.issuingState, sameText d.issuingState r.issuingState),
    (.name, sameText d.name r.name),
    (.passportNumber, sameText d.passportNumber r.passportNumber),
    (.nationality, sameText d.nationality r.nationality),
    (.dateOfBirth, sameText d.dateOfBirth r.dateOfBirth),
    (.gender, sameText d.gender r.gender),
    (.expiryDate, sameText d.expiryDate r.expiryDate),
    (.olderThan, oldEnough d.olderThan r.minimumAge),
    (.ownerOf, sameText d.ownerOf r.ownerOf),
    (.forbiddenCountriesList, allForbidden d.forbiddenCountries r.forbiddenCountries)]

theorem map_fst_evaluate (checker : AttributeChecker) (d : Disclosed) (r : Requirements)
    (today : Date) : (checker.evaluate d r today).map (·.1) = checks := rfl

end AttributeChecker

end Attestation
