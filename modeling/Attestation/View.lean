import Attestation.Check
import Attestation.Json.Document
import Attestation.Json.Reading
import Attestation.Outcome

namespace Attestation

structure Binding where
  userIdentifier : String
  nullifier : String
  deriving DecidableEq, Inhabited

namespace Binding

open Json

def layout : Layout Binding where
  fields :=
    [⟨"user_identifier", fun tree b => return { b with userIdentifier := ← tree.readString }⟩,
      ⟨"nullifier", fun tree b => return { b with nullifier := ← tree.readString }⟩]
  start := ⟨"", ""⟩
  isPartial := false

def toDocument (b : Binding) : Document :=
  .object [("user_identifier", .string b.userIdentifier), ("nullifier", .string b.nullifier)]

end Binding

/-- The form in which a report leaves the program: one flag for each check and the identity, which
is empty where none is bound. -/
structure View where
  flags : Check → Bool
  userIdentifier : String
  nullifier : String

namespace View

def ofFlags (flags : Check → Bool) (binding : Option Binding) : View where
  flags := flags
  userIdentifier := (binding.map (·.userIdentifier)).getD ""
  nullifier := (binding.map (·.nullifier)).getD ""

def ofOutcomes (outcomes : Check → Outcome) (binding : Option Binding) : View :=
  ofFlags (fun c => (outcomes c).flag) binding

def valid (view : View) : Bool := Check.all.all view.flags

theorem valid_iff (view : View) : view.valid = true ↔ ∀ c, view.flags c = true := by
  simp [valid, Check.mem_all]

open Json

def validName : String := "valid"
def userIdentifierName : String := "user_identifier"
def nullifierName : String := "nullifier"

def toDocument (view : View) : Document :=
  .object
    (Check.all.map (fun c => (c.wireName, .boolean (view.flags c))) ++
      [(validName, .boolean view.valid), (userIdentifierName, .string view.userIdentifier),
        (nullifierName, .string view.nullifier)])

def toText (view : View) : String := view.toDocument.toText

def toIndentedText (view : View) : String := view.toDocument.toIndentedText

def memberText (name : String) (value : List Char) : List Char :=
  Document.quote name ++ ':' :: value

def stream (view : View) : List Char :=
  '{' :: [','].intercalate
    (Check.all.map (fun c => memberText c.wireName (Document.word (view.flags c))) ++
      [memberText validName (Document.word view.valid),
        memberText userIdentifierName (Document.quote view.userIdentifier),
        memberText nullifierName (Document.quote view.nullifier)]) ++ ['}']

def streamText (view : View) : String := String.ofList view.stream

end View

end Attestation
