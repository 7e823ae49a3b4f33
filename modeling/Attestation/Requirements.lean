import Attestation.Disclosed

namespace Attestation

/-- What the revealed attributes have to show. Only the current date is required unless more is
set. -/
structure Requirements where
  scope : Option String := none
  attestationId : Option String := none
  currentDate : Bool := true
  issuingState : Option String := none
  name : Option String := none
  passportNumber : Option String := none
  nationality : Option String := none
  dateOfBirth : Option String := none
  gender : Option String := none
  expiryDate : Option String := none
  minimumAge : Option UInt32 := none
  ownerOf : Option String := none
  forbiddenCountries : List String := []
  deriving DecidableEq

namespace Requirements

instance : Inhabited Requirements := ⟨{}⟩

theorem default_eq : (default : Requirements) = {} := rfl

open Json Disclosed

def layout : Layout Requirements where
  fields :=
    [⟨"scope", fun tree r => return { r with scope := ← readText tree }⟩,
      ⟨"attestation_id", fun tree r => return { r with attestationId := ← readText tree }⟩,
      ⟨"require_current_date", fun tree r => return { r with currentDate := ← tree.readBoolean }⟩,
      ⟨"issuing_state", fun tree r => return { r with issuingState := ← readText tree }⟩,
      ⟨"name", fun tree r => return { r with name := ← readText tree }⟩,
      ⟨"passport_number", fun tree r => return { r with passportNumber := ← readText tree }⟩,
      ⟨"nationality", fun tree r => return { r with nationality := ← readText tree }⟩,
      ⟨"date_of_birth", fun tree r => return { r with dateOfBirth := ← readText tree }⟩,
      ⟨"gender", fun tree r => return { r with gender := ← readText tree }⟩,
      ⟨"expiry_date", fun tree r => return { r with expiryDate := ← readText tree }⟩,
      ⟨"minimum_age", fun tree r => return { r with minimumAge := ← tree.readOption readAge }⟩,
      ⟨"owner_of", fun tree r => return { r with ownerOf := ← readText tree }⟩,
      ⟨"forbidden_countries", fun tree r =>
        return { r with forbiddenCountries := ← tree.readList Tree.readString }⟩]
  start := default
  isPartial := true

def toDocument (r : Requirements) : Document :=
  .object
    [("scope", textDocument r.scope), ("attestation_id", textDocument r.attestationId),
      ("require_current_date", .boolean r.currentDate),
      ("issuing_state", textDocument r.issuingState), ("name", textDocument r.name),
      ("passport_number", textDocument r.passportNumber),
      ("nationality", textDocument r.nationality), ("date_of_birth", textDocument r.dateOfBirth),
      ("gender", textDocument r.gender), ("expiry_date", textDocument r.expiryDate),
      ("minimum_age", ageDocument r.minimumAge), ("owner_of", textDocument r.ownerOf),
      ("forbidden_countries", .strings r.forbiddenCountries)]

end Requirements

end Attestation
