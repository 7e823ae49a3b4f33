import Attestation.FileTree
import Attestation.Requirements
import Attestation.Toml.Layout
import Attestation.Toml.Reading
import Attestation.Verifier

namespace Attestation

structure Verification where
  policy : Policy
  toleranceDays : Int64
  deriving DecidableEq

namespace Verification

def defaultToleranceDays : Int64 := 1

instance : Inhabited Verification := ⟨⟨default, defaultToleranceDays⟩⟩

end Verification

structure Logging where
  level : String
  format : String
  deriving DecidableEq

namespace Logging

def defaultLevel : String := "warn"

def defaultFormat : String := "text"

instance : Inhabited Logging := ⟨⟨defaultLevel, defaultFormat⟩⟩

end Logging

structure Config where
  verification : Verification
  requirements : Requirements
  logging : Logging
  deriving DecidableEq

instance : Inhabited Config := ⟨⟨default, default, default⟩⟩

inductive ConfigFault where
  | unreadable
  | malformed
  deriving DecidableEq

namespace Config

open Toml

def textField {σ : Type} (key : String) (get : σ → Option String) (set : String → σ → σ) :
    LayoutField σ where
  key := key
  read tree state := tree.string?.map fun content => set content state
  write state := (get state).map .text

def flagField {σ : Type} (key : String) (get : σ → Bool) (set : Bool → σ → σ) :
    LayoutField σ where
  key := key
  read tree state := tree.boolean?.map fun flag => set flag state
  write state := some (.flag (get state))

def verificationLayout : Layout Verification where
  fields :=
    [{ key := "policy"
       read := fun tree v =>
        (tree.choice?.bind Policy.ofName?).map fun policy => { v with policy := policy }
       write := fun v => some (.text v.policy.wireName) },
      { key := "current_date_tolerance_days"
        read := fun tree v =>
          (tree.integer? leastInteger greatestInteger).map fun days =>
            { v with toleranceDays := .ofInt days }
        write := fun v => some (.whole v.toleranceDays.toInt) }]
  start := ⟨default, Verification.defaultToleranceDays⟩

def requirementsLayout : Layout Requirements where
  fields :=
    [textField "scope" (·.scope) fun s r => { r with scope := s },
      textField "attestation_id" (·.attestationId) fun s r => { r with attestationId := s },
      flagField "require_current_date" (·.currentDate) fun b r => { r with currentDate := b },
      textField "issuing_state" (·.issuingState) fun s r => { r with issuingState := s },
      textField "name" (·.name) fun s r => { r with name := s },
      textField "passport_number" (·.passportNumber) fun s r => { r with passportNumber := s },
      textField "nationality" (·.nationality) fun s r => { r with nationality := s },
      textField "date_of_birth" (·.dateOfBirth) fun s r => { r with dateOfBirth := s },
      textField "gender" (·.gender) fun s r => { r with gender := s },
      textField "expiry_date" (·.expiryDate) fun s r => { r with expiryDate := s },
      { key := "minimum_age"
        read := fun tree r =>
          (tree.integer? 0 Disclosed.greatestAge).map fun age =>
            { r with minimumAge := some (.ofNat age.toNat) }
        write := fun r => r.minimumAge.map fun age => .whole age.toNat },
      textField "owner_of" (·.ownerOf) fun s r => { r with ownerOf := s },
      { key := "forbidden_countries"
        read := fun tree r =>
          tree.strings?.map fun countries => { r with forbiddenCountries := countries }
        write := fun r => some (.texts r.forbiddenCountries) }]
  start := default

def loggingLayout : Layout Logging where
  fields :=
    [textField "level" (some ·.level) fun s l => { l with level := s },
      textField "format" (some ·.format) fun s l => { l with format := s }]
  start := ⟨Logging.defaultLevel, Logging.defaultFormat⟩

def verificationName : String := "verification"
def requirementsName : String := "requirements"
def loggingName : String := "logging"

/-- A section as a whole; one that is left out stands for the default of its structure, whatever the
layout has for single entries. -/
def readSection {σ : Type} [Inhabited σ] (layout : Layout σ) (entries : Entries) (name : String) :
    Option σ :=
  match entries.get? name with
  | none => some default
  | some tree => layout.read tree

def ofEntries? (entries : Entries) : Option Config := do
  return {
    verification := ← readSection verificationLayout entries verificationName
    requirements := ← readSection requirementsLayout entries requirementsName
    logging := ← readSection loggingLayout entries loggingName }

def ofText? (text : String) : Option Config := (Toml.ofText? text).bind ofEntries?

def sections (c : Config) : List Section :=
  [⟨verificationName, verificationLayout.write c.verification⟩,
    ⟨requirementsName, requirementsLayout.write c.requirements⟩,
    ⟨loggingName, loggingLayout.write c.logging⟩]

def ofStored : Stored → Except ConfigFault Config
  | .nothing => .ok default
  | .unreadable => .error .unreadable
  | .text content =>
    match ofText? content with
    | some c => .ok c
    | none => .error .malformed

def toText (c : Config) : String := Toml.toText c.sections

def options (c : Config) : VerifierOptions :=
  ⟨c.verification.policy, c.verification.toleranceDays⟩

end Config

end Attestation
