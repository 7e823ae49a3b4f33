import Attestation.Value.Document

namespace Attestation

structure Disclosed where
  scope : Option String := none
  attestationId : Option String := none
  currentDate : Option Date := none
  issuingState : Option String := none
  name : Option String := none
  passportNumber : Option String := none
  nationality : Option String := none
  dateOfBirth : Option String := none
  gender : Option String := none
  expiryDate : Option String := none
  olderThan : Option UInt32 := none
  ownerOf : Option String := none
  forbiddenCountries : Option (List String) := none
  deriving DecidableEq, Inhabited

namespace Disclosed

open Json

def greatestAge : Int := UInt32.size - 1

def readAge (tree : Tree) : Read UInt32 := do
  let number ← tree.readInteger 0 greatestAge
  return UInt32.ofNat number.toNat

def readText (tree : Tree) : Read (Option String) := tree.readOption Tree.readString

def layout : Layout Disclosed where
  fields :=
    [⟨"scope", fun tree d => return { d with scope := ← readText tree }⟩,
      ⟨"attestation_id", fun tree d => return { d with attestationId := ← readText tree }⟩,
      ⟨"current_date", fun tree d =>
        return { d with currentDate := ← tree.readOption Value.readDate }⟩,
      ⟨"issuing_state", fun tree d => return { d with issuingState := ← readText tree }⟩,
      ⟨"name", fun tree d => return { d with name := ← readText tree }⟩,
      ⟨"passport_number", fun tree d => return { d with passportNumber := ← readText tree }⟩,
      ⟨"nationality", fun tree d => return { d with nationality := ← readText tree }⟩,
      ⟨"date_of_birth", fun tree d => return { d with dateOfBirth := ← readText tree }⟩,
      ⟨"gender", fun tree d => return { d with gender := ← readText tree }⟩,
      ⟨"expiry_date", fun tree d => return { d with expiryDate := ← readText tree }⟩,
      ⟨"older_than", fun tree d => return { d with olderThan := ← tree.readOption readAge }⟩,
      ⟨"owner_of", fun tree d => return { d with ownerOf := ← readText tree }⟩,
      ⟨"forbidden_countries_list", fun tree d =>
        return { d with forbiddenCountries := ← tree.readOption (Tree.readList Tree.readString) }⟩]
  start := {}
  isPartial := true

def textDocument (text : Option String) : Document := .ofOption .string text

def ageDocument (age : Option UInt32) : Document := .ofOption (fun n => .integer n.toNat) age

def toDocument (d : Disclosed) : Document :=
  .object
    [("scope", textDocument d.scope), ("attestation_id", textDocument d.attestationId),
      ("current_date", .ofOption (fun day => .string day.toText) d.currentDate),
      ("issuing_state", textDocument d.issuingState), ("name", textDocument d.name),
      ("passport_number", textDocument d.passportNumber),
      ("nationality", textDocument d.nationality), ("date_of_birth", textDocument d.dateOfBirth),
      ("gender", textDocument d.gender), ("expiry_date", textDocument d.expiryDate),
      ("older_than", ageDocument d.olderThan), ("owner_of", textDocument d.ownerOf),
      ("forbidden_countries_list", .ofOption .strings d.forbiddenCountries)]

end Disclosed

end Attestation
