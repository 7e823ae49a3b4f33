import Attestation.Json.Tree
import Attestation.Keyed

namespace Attestation.Json

inductive Fault where
  | malformed
  | missingField (name : String)
  | duplicateField (name : String)
  | unknownVariant (found : String) (known : List String)
  deriving DecidableEq

namespace Fault

def inTicks (name : String) : String := "\x60" ++ name ++ "\x60"

def expectation : List String → String
  | [a] => inTicks a
  | [a, b] => inTicks a ++ " or " ++ inTicks b
  | known => "one of " ++ ", ".intercalate (known.map inTicks)

def message : Fault → String
  | .malformed => "the text has not the expected form"
  | .missingField name => "missing field " ++ inTicks name
  | .duplicateField name => "duplicate field " ++ inTicks name
  | .unknownVariant found known =>
    "unknown variant " ++ inTicks found ++ ", expected " ++ expectation known

end Fault

abbrev Read (α : Type) := Except Fault α

theorem bind_eq_ok_iff {ε α β : Type} (x : Except ε α) (f : α → Except ε β) (b : β) :
    x >>= f = .ok b ↔ ∃ a, x = .ok a ∧ f a = .ok b := by
  cases x <;> simp [bind, Except.bind]

theorem mapError_eq_ok_iff {ε δ α : Type} (f : ε → δ) (x : Except ε α) (a : α) :
    x.mapError f = .ok a ↔ x = .ok a := by
  cases x with
  | error error => exact ⟨nofun, nofun⟩
  | ok value =>
    constructor
    · exact fun same => congrArg Except.ok (Except.ok.inj same)
    · exact fun same => congrArg Except.ok (Except.ok.inj same)

namespace Tree

def readText {α : Type} (read : Tree → Read α) (text : String) : Read α := do
  let (tree, alone) := ofText text
  let value ← read tree
  if alone then return value else throw .malformed

def readString : Tree → Read String
  | .string (some content) => return content
  | _ => throw .malformed

def readBoolean : Tree → Read Bool
  | .boolean flag => return flag
  | _ => throw .malformed

def readNull : Tree → Read Unit
  | .null => return ()
  | _ => throw .malformed

/-- Reads a whole number between two bounds. It has to be spelled as one, without point or power. -/
def readInteger (least greatest : Int) : Tree → Read Int
  | .number numeral =>
    match numeral.integer? with
    | some n => if least ≤ n ∧ n ≤ greatest then return n else throw .malformed
    | none => throw .malformed
  | _ => throw .malformed

def readOption {α : Type} (read : Tree → Read α) : Tree → Read (Option α)
  | .null => return none
  | tree => return some (← read tree)

def readList {α : Type} (read : Tree → Read α) : Tree → Read (List α)
  | .array items => items.mapM read
  | _ => throw .malformed

def readEntries {κ ν : Type} (readKey : String → Read κ) (read : Tree → Read ν) :
    Tree → Read (List (κ × ν))
  | .object members => members.mapM fun
    | (some name, value) => do
      let key ← readKey name
      return (key, ← read value)
    | (none, _) => throw .malformed
  | _ => throw .malformed

def readName {α : Type} (known : List α) (nameOf : α → String) (name : String) : Read α :=
  match known.find? fun a => nameOf a == name with
  | some a => return a
  | none => throw (.unknownVariant name (known.map nameOf))

/-- Reads one of several names; it may also be the name of the one member of an object, whose value
is null. -/
def readVariant {α : Type} (known : List α) (nameOf : α → String) : Tree → Read α
  | .string (some name) => readName known nameOf name
  | .object ((some name, value) :: rest) => do
    let a ← readName known nameOf name
    value.readNull
    if rest.isEmpty then return a else throw .malformed
  | _ => throw .malformed

end Tree

structure LayoutField (σ : Type) where
  name : String
  read : Tree → σ → Read σ

/-- How a structure is read. A partial structure need not have all its members: those left out keep
what they have in `start`. -/
structure Layout (σ : Type) where
  fields : List (LayoutField σ)
  start : σ
  isPartial : Bool

namespace Layout

variable {σ : Type}

/-- Reads members in their order. One that the layout does not know is skipped, and one that comes a
second time is refused as soon as its name is read. -/
def readMembers (layout : Layout σ) : List Member → List String → σ → Read (List String × σ)
  | [], seen, state => return (seen, state)
  | (none, _) :: _, _, _ => throw .malformed
  | (some name, value) :: rest, seen, state =>
    match layout.fields.find? fun field => field.name == name with
    | none =>
      if value.isSound then layout.readMembers rest seen state else throw .malformed
    | some field =>
      if seen.contains name then throw (.duplicateField name)
      else do layout.readMembers rest (name :: seen) (← field.read value state)

def readItems (isPartial : Bool) : List (LayoutField σ) → List Tree → σ → Read σ
  | [], [], state => return state
  | [], _ :: _, _ => throw .malformed
  | _ :: _, [], state => if isPartial then return state else throw .malformed
  | field :: fields, item :: items, state => do
    readItems isPartial fields items (← field.read item state)

def firstMissing? (layout : Layout σ) (seen : List String) : Option String :=
  (layout.fields.map (·.name)).find? fun name => !seen.contains name

def read (layout : Layout σ) : Tree → Read σ
  | .object members => do
    let (seen, state) ← layout.readMembers members [] layout.start
    match layout.isPartial, layout.firstMissing? seen with
    | false, some name => throw (.missingField name)
    | _, _ => return state
  | .array items => readItems layout.isPartial layout.fields items layout.start
  | _ => throw .malformed

end Layout

end Attestation.Json
