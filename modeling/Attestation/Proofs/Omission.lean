import Attestation.Config
import Attestation.Submission

namespace Attestation

/-- The members of a structure that are left out, by their names. -/
abbrev Omission := String → Bool

namespace Omission

def nothing : Omission := fun _ => false

def everything : Omission := fun _ => true

def given (omitted : Omission) (name : String) : Omission :=
  fun other => omitted other && other != name

def givenAll (omitted : Omission) (names : List String) : Omission := names.foldl given omitted

def also (omitted : Omission) (names : List String) : Omission :=
  fun name => names.contains name || omitted name

def choose {α : Type} (omitted : Omission) (name : String) (value fallback : α) : α :=
  if omitted name then fallback else value

section

variable {α : Type} {omitted : Omission} {name : String} (value fallback : α)

theorem choose_of_omitted (absent : omitted name = true) :
    omitted.choose name value fallback = fallback :=
  if_pos absent

theorem choose_self : omitted.choose name value value = value :=
  ite_self value

theorem choose_given_self : (omitted.given name).choose name value fallback = value := by
  simp [choose, given]

theorem choose_given_of_ne {other : String} (apart : name ≠ other) :
    (omitted.given other).choose name value fallback = omitted.choose name value fallback := by
  simp [choose, given, apart]

end

theorem givenAll_eq (omitted : Omission) (names : List String) (name : String) :
    omitted.givenAll names name = (omitted name && !names.contains name) := by
  induction names generalizing omitted with
  | nil => simp [givenAll]
  | cons first names ih =>
    rw [givenAll, List.foldl_cons, ← givenAll, ih, given, List.contains_cons, Bool.not_or,
      Bool.and_assoc]
    rfl

theorem also_of_mem (omitted : Omission) {names : List String} {name : String}
    (member : name ∈ names) : omitted.also names name = true := by
  simp [also, member]

theorem givenAll_also {omitted : Omission} {names kept : List String}
    (split : ∀ name, name ∈ kept ↔ name ∈ names ∧ omitted name = false) :
    (omitted.also names).givenAll kept = omitted := by
  funext name
  have known := split name
  rw [givenAll_eq, also]
  by_cases member : name ∈ kept
  · simp [known.mp member, member]
  · by_cases listed : name ∈ names
    · have absent : omitted name = true := by
        cases left : omitted name with
        | true => rfl
        | false => exact absurd (known.mpr ⟨listed, left⟩) member
      simp [member, listed, absent]
    · simp [member, listed]

end Omission

/-! What is left out has its default. -/

def Requirements.without (r : Requirements) (omitted : Omission) : Requirements :=
  let default : Requirements := default
  { scope := omitted.choose "scope" r.scope default.scope
    attestationId := omitted.choose "attestation_id" r.attestationId default.attestationId
    currentDate := omitted.choose "require_current_date" r.currentDate default.currentDate
    issuingState := omitted.choose "issuing_state" r.issuingState default.issuingState
    name := omitted.choose "name" r.name default.name
    passportNumber := omitted.choose "passport_number" r.passportNumber default.passportNumber
    nationality := omitted.choose "nationality" r.nationality default.nationality
    dateOfBirth := omitted.choose "date_of_birth" r.dateOfBirth default.dateOfBirth
    gender := omitted.choose "gender" r.gender default.gender
    expiryDate := omitted.choose "expiry_date" r.expiryDate default.expiryDate
    minimumAge := omitted.choose "minimum_age" r.minimumAge default.minimumAge
    ownerOf := omitted.choose "owner_of" r.ownerOf default.ownerOf
    forbiddenCountries :=
      omitted.choose "forbidden_countries" r.forbiddenCountries default.forbiddenCountries }

def Disclosed.without (d : Disclosed) (omitted : Omission) : Disclosed :=
  let default : Disclosed := {}
  { scope := omitted.choose "scope" d.scope default.scope
    attestationId := omitted.choose "attestation_id" d.attestationId default.attestationId
    currentDate := omitted.choose "current_date" d.currentDate default.currentDate
    issuingState := omitted.choose "issuing_state" d.issuingState default.issuingState
    name := omitted.choose "name" d.name default.name
    passportNumber := omitted.choose "passport_number" d.passportNumber default.passportNumber
    nationality := omitted.choose "nationality" d.nationality default.nationality
    dateOfBirth := omitted.choose "date_of_birth" d.dateOfBirth default.dateOfBirth
    gender := omitted.choose "gender" d.gender default.gender
    expiryDate := omitted.choose "expiry_date" d.expiryDate default.expiryDate
    olderThan := omitted.choose "older_than" d.olderThan default.olderThan
    ownerOf := omitted.choose "owner_of" d.ownerOf default.ownerOf
    forbiddenCountries :=
      omitted.choose "forbidden_countries_list" d.forbiddenCountries default.forbiddenCountries }

def Submission.without (s : Submission) (omitted : Omission) : Submission :=
  let default : Submission := {}
  { verdicts := omitted.choose "verdicts" s.verdicts default.verdicts
    disclosed := omitted.choose "disclosed" s.disclosed default.disclosed
    identity := omitted.choose "identity" s.identity default.identity }

def Verification.without (v : Verification) (omitted : Omission) : Verification :=
  let default : Verification := default
  { policy := omitted.choose "policy" v.policy default.policy
    toleranceDays :=
      omitted.choose "current_date_tolerance_days" v.toleranceDays default.toleranceDays }

def Logging.without (l : Logging) (omitted : Omission) : Logging :=
  let default : Logging := default
  { level := omitted.choose "level" l.level default.level
    format := omitted.choose "format" l.format default.format }

def Config.without (c : Config) (sections : Omission) (entries : String → Omission) : Config :=
  let default : Config := default
  { verification := sections.choose "verification"
      (c.verification.without (entries "verification")) default.verification
    requirements := sections.choose "requirements"
      (c.requirements.without (entries "requirements")) default.requirements
    logging := sections.choose "logging" (c.logging.without (entries "logging")) default.logging }

end Attestation
