import Attestation.Date
import Attestation.Keyed

namespace Attestation

/-- What a failed check observed, or what it demanded. Values only explain a failure; nothing is
decided by them. -/
inductive Value where
  | empty
  | text (content : String)
  | integer (number : Int64)
  | boolean (flag : Bool)
  | date (day : Date)
  | list (items : List String)
  | record (fields : Keyed String String)
  deriving DecidableEq

namespace Value

instance : Inhabited Value := ⟨.empty⟩

def isEmpty : Value → Bool
  | .empty => true
  | _ => false

/-- A record of the given fields; of several values of one field the last counts. -/
def ofFields (fields : List (String × String)) : Value := .record (.ofList fields)

def ofUInt32 (number : UInt32) : Value := .integer (Int64.ofNat number.toNat)

def ofOption {α : Type} (wrap : α → Value) : Option α → Value
  | none => .empty
  | some a => wrap a

def integerText (number : Int64) : String := String.ofList (Text.signedNumeral number.toInt)

def booleanText (flag : Bool) : String := if flag then "true" else "false"

def toText : Value → String
  | .empty => "<empty>"
  | .text content => content
  | .integer number => integerText number
  | .boolean flag => booleanText flag
  | .date day => day.toText
  | .list items => "[" ++ ", ".intercalate items ++ "]"
  | .record fields =>
    "\x7b" ++ ", ".intercalate (fields.entries.map fun entry => entry.1 ++ ": " ++ entry.2) ++ "\x7d"

end Value

end Attestation
