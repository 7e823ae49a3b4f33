namespace Attestation

/-- One independently decided predicate about an attestation. The order of the constructors is the
vocabulary order in which checks are listed and written. -/
inductive Check where
  | scope
  | merkleRootCommitment
  | merkleRootCsca
  | attestationId
  | currentDate
  | issuingState
  | name
  | passportNumber
  | nationality
  | dateOfBirth
  | gender
  | expiryDate
  | olderThan
  | ownerOf
  | blindedDscCommitment
  | proof
  | dscProof
  | dsc
  | pubKey
  | ofac
  | forbiddenCountriesList
  deriving DecidableEq, Repr, Inhabited

inductive Category where
  | binding
  | registry
  | certificate
  | disclosure
  | proof
  | sanctions
  deriving DecidableEq, Repr

namespace Check

def all : List Check :=
  [.scope, .merkleRootCommitment, .merkleRootCsca, .attestationId, .currentDate, .issuingState,
    .name, .passportNumber, .nationality, .dateOfBirth, .gender, .expiryDate, .olderThan, .ownerOf,
    .blindedDscCommitment, .proof, .dscProof, .dsc, .pubKey, .ofac, .forbiddenCountriesList]

theorem mem_all (c : Check) : c ∈ all := by cases c <;> decide

theorem all_nodup : all.Nodup := by decide

def index (c : Check) : Nat := c.ctorIdx

theorem index_injective {a b : Check} (same : a.index = b.index) : a = b := by
  cases a <;> cases b <;> first | rfl | exact absurd same (by decide)

instance : Ord Check := ⟨compareOn index⟩

instance : Std.TransOrd Check := inferInstanceAs (Std.TransCmp (compareOn index))

instance : Std.LawfulEqOrd Check where
  eq_of_compare same := index_injective (Nat.compare_eq_eq.mp same)

def wireName : Check → String
  | .scope => "scope"
  | .merkleRootCommitment => "merkle_root_commitment"
  | .merkleRootCsca => "merkle_root_csca"
  | .attestationId => "attestation_id"
  | .currentDate => "current_date"
  | .issuingState => "issuing_state"
  | .name => "name"
  | .passportNumber => "passport_number"
  | .nationality => "nationality"
  | .dateOfBirth => "date_of_birth"
  | .gender => "gender"
  | .expiryDate => "expiry_date"
  | .olderThan => "older_than"
  | .ownerOf => "owner_of"
  | .blindedDscCommitment => "blinded_dsc_commitment"
  | .proof => "proof"
  | .dscProof => "dscProof"
  | .dsc => "dsc"
  | .pubKey => "pubKey"
  | .ofac => "ofac"
  | .forbiddenCountriesList => "forbidden_countries_list"

def ofName? (name : String) : Option Check :=
  all.find? fun c => c.wireName == name

theorem ofName?_wireName (c : Check) : ofName? c.wireName = some c := by
  cases c <;> decide

theorem wireName_of_ofName? {name : String} {c : Check} (found : ofName? name = some c) :
    c.wireName = name := by
  simpa using List.find?_some found

theorem wireName_injective {a b : Check} (same : a.wireName = b.wireName) : a = b := by
  have h := ofName?_wireName a
  rw [same, ofName?_wireName] at h
  exact (Option.some.inj h).symm

def category : Check → Category
  | .scope | .attestationId | .currentDate | .ownerOf => .binding
  | .merkleRootCommitment | .merkleRootCsca => .registry
  | .blindedDscCommitment | .dscProof | .dsc | .pubKey => .certificate
  | .issuingState | .name | .passportNumber | .nationality | .dateOfBirth | .gender | .expiryDate
  | .olderThan => .disclosure
  | .proof => .proof
  | .ofac | .forbiddenCountriesList => .sanctions

end Check

namespace Category

def all : List Category := [.binding, .registry, .certificate, .disclosure, .proof, .sanctions]

def wireName : Category → String
  | .binding => "binding"
  | .registry => "registry"
  | .certificate => "certificate"
  | .disclosure => "disclosure"
  | .proof => "proof"
  | .sanctions => "sanctions"

def documentName : Category → String
  | .binding => "Binding"
  | .registry => "Registry"
  | .certificate => "Certificate"
  | .disclosure => "Disclosure"
  | .proof => "Proof"
  | .sanctions => "Sanctions"

end Category

end Attestation
