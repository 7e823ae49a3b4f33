import Attestation.Value
import Attestation.Value.Document

namespace Attestation

inductive Verdict where
  | pass
  | fail (actual expected : Value)
  deriving DecidableEq

namespace Verdict

instance : Inhabited Verdict := ⟨.pass⟩

def isPass : Verdict → Bool
  | .pass => true
  | .fail .. => false

def ensure (ok : Bool) (actual expected : Value) : Verdict :=
  if ok then .pass else .fail actual expected

def expectEq {α : Type} [DecidableEq α] (wrap : α → Value) (actual expected : α) : Verdict :=
  ensure (actual = expected) (wrap actual) (wrap expected)

open Json

inductive Kind where
  | pass
  | fail
  deriving DecidableEq

def Kind.all : List Kind := [.pass, .fail]

def Kind.wireName : Kind → String
  | .pass => "pass"
  | .fail => "fail"

def tagName : String := "verdict"

def toDocument : Verdict → Document
  | .pass => .object [(tagName, .string Kind.pass.wireName)]
  | .fail actual expected =>
    .object [(tagName, .string Kind.fail.wireName), ("actual", actual.toDocument),
      ("expected", expected.toDocument)]

def failureLayout : Layout (Value × Value) where
  fields :=
    [⟨"actual", fun tree values => return (← Value.ofTree true 0 tree, values.2)⟩,
      ⟨"expected", fun tree values => return (values.1, ← Value.ofTree true 0 tree)⟩]
  start := (.empty, .empty)
  isPartial := true

def readKind : Tree → Read Kind
  | .string (some name) => Tree.readName Kind.all Kind.wireName name
  | _ => throw .malformed

def takeKind (levels : Nat) : List Member → Option Kind → Read (Option Kind × List Member)
  | [], kind => return (kind, [])
  | (none, _) :: _, _ => throw .malformed
  | (some name, value) :: rest, kind =>
    if name == tagName then
      if kind.isSome then throw (.duplicateField tagName)
      else do takeKind levels rest (some (← readKind value))
    else if value.isKeepable levels then do
      let (kind, others) ← takeKind levels rest kind
      return (kind, (some name, value) :: others)
    else throw .malformed

/-- Reads a verdict inside of `depth` arrays and objects. It is held as a whole before its values
are looked at. -/
def ofTree (depth : Nat) : Tree → Read Verdict
  | .object members => do
    match ← takeKind (Tree.greatestDepth - (depth + 1)) members none with
    | (none, _) => throw (.missingField tagName)
    | (some .pass, _) => return .pass
    | (some .fail, others) =>
      let (actual, expected) ← failureLayout.read (.object others)
      return .fail actual expected
  | .array [] => throw (.missingField tagName)
  | .array (tag :: items) => do
    let kind ← readKind tag
    if items.all (Tree.isKeepable (Tree.greatestDepth - (depth + 1))) then
      match kind with
      | .pass => if items.isEmpty then return .pass else throw .malformed
      | .fail =>
        let (actual, expected) ← failureLayout.read (.array items)
        return .fail actual expected
    else throw .malformed
  | _ => throw .malformed

end Verdict

end Attestation
