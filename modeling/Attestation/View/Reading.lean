import Attestation.Json.Reading
import Attestation.Text.Invisible
import Attestation.View

namespace Attestation.View

open Json

inductive Problem where
  | unexpectedField (name : String)
  | notBoolean (name : String)
  | notString (name : String)
  | duplicateField (name : String)
  | missingChecks (missing : List Check)
  | missingField (name : String)
  | inconsistent (valid : Bool)
  deriving DecidableEq

def Problem.message : Problem → String
  | .unexpectedField name => "unexpected field: " ++ name
  | .notBoolean name => "field " ++ name ++ " is not a boolean"
  | .notString name => "field " ++ name ++ " is not a string"
  | .duplicateField name => "duplicate field: " ++ name
  | .missingChecks missing =>
    "missing check fields: " ++ ", ".intercalate (missing.map Check.wireName)
  | .missingField name => "missing field: " ++ name
  | .inconsistent valid =>
    "valid is " ++ String.ofList (Document.word valid) ++ " but the check flags reduce to " ++
      String.ofList (Document.word !valid)

inductive ReadError where
  | malformed
  | notAnObject (found : String)
  | misshapen (problem : Problem)
  deriving DecidableEq

def ReadError.message : ReadError → String
  | .malformed => Fault.malformed.message
  | .notAnObject found => "invalid type: " ++ found ++ ", expected a verification report object"
  | .misshapen problem => "malformed report view: " ++ problem.message

structure Draft where
  flags : Check → Option Bool
  valid : Option Bool
  userIdentifier : Option String
  nullifier : Option String

namespace Draft

def empty : Draft := ⟨fun _ => none, none, none, none⟩

def readFlag (name : String) : Tree → Except Problem Bool
  | .boolean flag => .ok flag
  | _ => .error (.notBoolean name)

def readText (name : String) : Tree → Except Problem String
  | .string (some content) => .ok content
  | _ => .error (.notString name)

def once {α : Type} (slot : Option α) (name : String) : Except Problem Unit :=
  if slot.isSome then .error (.duplicateField name) else .ok ()

/-- Takes one member in. Its value is looked at before it is compared with earlier ones. -/
def add (draft : Draft) (name : String) (value : Tree) : Except Problem Draft :=
  if name == validName then do
    let flag ← readFlag name value
    once draft.valid name
    return { draft with valid := some flag }
  else if name == userIdentifierName then do
    let text ← readText name value
    once draft.userIdentifier name
    return { draft with userIdentifier := some text }
  else if name == nullifierName then do
    let text ← readText name value
    once draft.nullifier name
    return { draft with nullifier := some text }
  else
    match Check.ofName? name with
    | none => throw (.unexpectedField name)
    | some check => do
      let flag ← readFlag name value
      once (draft.flags check) name
      return { draft with flags := fun c => if c = check then some flag else draft.flags c }

def addAll (draft : Draft) : List (String × Tree) → Except Problem Draft
  | [] => .ok draft
  | (name, value) :: rest => do (← draft.add name value).addAll rest

def require {α : Type} (slot : Option α) (name : String) : Except Problem α :=
  match slot with
  | some a => .ok a
  | none => .error (.missingField name)

def finish (draft : Draft) : Except Problem View := do
  let missing := Check.all.filter fun c => (draft.flags c).isNone
  if missing ≠ [] then throw (.missingChecks missing)
  let valid ← require draft.valid validName
  let userIdentifier ← require draft.userIdentifier userIdentifierName
  let nullifier ← require draft.nullifier nullifierName
  let view : View := ⟨fun c => (draft.flags c).getD false, userIdentifier, nullifier⟩
  if view.valid = valid then return view else throw (.inconsistent valid)

end Draft

/-- Holds the members of an object, every one of them before any is looked at. -/
def hold? (members : List Member) : Option (List (String × Tree)) :=
  members.mapM fun (name, value) => do
    let name ← name
    if value.isKeepable (Tree.greatestDepth - 1) then some (name, value) else none

def describe : Quantity → String
  | .integer number => "integer " ++ Fault.inTicks (String.ofList (Text.signedNumeral number))
  | .real negative magnitude =>
    "floating point " ++ Fault.inTicks
      (String.ofList (if negative then '-' :: magnitude.toText else magnitude.toText))

def notAnObject {α : Type} (found : String) : Except ReadError α := .error (.notAnObject found)

def ofTree : Tree → Except ReadError View
  | .object members =>
    match hold? members with
    | none => .error .malformed
    | some entries => (Draft.empty.addAll entries >>= Draft.finish).mapError .misshapen
  | .null => notAnObject "null"
  | .boolean flag => notAnObject ("boolean " ++ Fault.inTicks (String.ofList (Document.word flag)))
  | .number numeral =>
    match numeral.quantity? with
    | some quantity => notAnObject (describe quantity)
    | none => .error .malformed
  | .string (some content) => notAnObject ("string " ++ Text.quoted content)
  | .array _ => notAnObject "sequence"
  | .string none | .broken => .error .malformed

/-- Reads a view. Nothing is repaired: a member that is unknown, missing, repeated or of the wrong
type refuses the text. -/
def ofText (text : String) : Except ReadError View := do
  let (tree, alone) := Tree.ofText text
  let view ← ofTree tree
  if alone then return view else throw .malformed

end Attestation.View
