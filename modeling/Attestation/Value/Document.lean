import Attestation.Json.Document
import Attestation.Json.Reading
import Attestation.Value

namespace Attestation.Value

open Json

inductive Kind where
  | empty
  | text
  | integer
  | boolean
  | date
  | list
  | record
  deriving DecidableEq

namespace Kind

def all : List Kind := [.empty, .text, .integer, .boolean, .date, .list, .record]

def wireName : Kind → String
  | .empty => "empty"
  | .text => "text"
  | .integer => "integer"
  | .boolean => "boolean"
  | .date => "date"
  | .list => "list"
  | .record => "record"

/-- Reads the kind of a value that was held while the text around it was read. Where the kind is the
name of a member, that must be the only one, and an empty object will do for its value. -/
def readHeld : Tree → Read Kind
  | .object [(some name, value)] => do
    let kind ← Tree.readName all wireName name
    match value with
    | .null | .object [] => return kind
    | _ => throw .malformed
  | .string (some name) => Tree.readName all wireName name
  | _ => throw .malformed

def read (held : Bool) (tree : Tree) : Read Kind :=
  if held then readHeld tree else tree.readVariant all wireName

/-- Reads the kind of a value from the first item of an array, where only its name will do. In a
value that was held, its place in the list of kinds will do as well. -/
def readItem (held : Bool) : Tree → Read Kind
  | .string (some name) => Tree.readName all wireName name
  | .number numeral =>
    match held, numeral.integer? with
    | true, some (.ofNat place) =>
      match all[place]? with
      | some kind => return kind
      | none => throw .malformed
    | _, _ => throw .malformed
  | _ => throw .malformed

end Kind

def fieldsDocument (fields : Keyed String String) : Document :=
  .object (fields.entries.map fun entry => (entry.1, .string entry.2))

def toDocument : Value → Document
  | .empty => tagged .empty []
  | .text content => tagged .text [("value", .string content)]
  | .integer number => tagged .integer [("value", .integer number.toInt)]
  | .boolean flag => tagged .boolean [("value", .boolean flag)]
  | .date day => tagged .date [("value", .string day.toText)]
  | .list items => tagged .list [("value", .strings items)]
  | .record fields => tagged .record [("value", fieldsDocument fields)]
where
  tagged (kind : Kind) (content : List (String × Document)) : Document :=
    .object (("type", .string kind.wireName) :: content)

def leastInteger : Int := Int64.minValue.toInt
def greatestInteger : Int := Int64.maxValue.toInt

def readDate (tree : Tree) : Read Date := do
  match Date.ofText? (← tree.readString) with
  | some day => return day
  | none => throw .malformed

def readContent : Kind → Tree → Read Value
  | .empty, tree => do
    tree.readNull
    return .empty
  | .text, tree => return .text (← tree.readString)
  | .integer, tree => do
    let number ← tree.readInteger leastInteger greatestInteger
    return .integer (Int64.ofInt number)
  | .boolean, tree => return .boolean (← tree.readBoolean)
  | .date, tree => return .date (← readDate tree)
  | .list, tree => return .list (← tree.readList Tree.readString)
  | .record, tree => return ofFields (← tree.readEntries pure Tree.readString)

inductive Part where
  | kind
  | content
  deriving DecidableEq

def Part.name : Part → String
  | .kind => "type"
  | .content => "value"

def Part.ofName? (name : String) : Option Part :=
  [Part.kind, .content].find? fun part => part.name == name

def nextPart : List Member → Read (Option (Part × Tree × List Member))
  | [] => return none
  | (none, _) :: _ => throw .malformed
  | (some name, value) :: rest =>
    match Part.ofName? name with
    | some part => return some (part, value, rest)
    | none => if value.isSound then nextPart rest else throw .malformed

def rejectRepeated (members : List Member) : Read Unit := do
  match ← nextPart members with
  | some (part, _, _) => throw (.duplicateField part.name)
  | none => return ()

/-- Reads a value from its members. Content that comes before the kind has to be held until the kind
is known. -/
def readMembers (held : Bool) (levels : Nat) (members : List Member) : Read Value := do
  match ← nextPart members with
  | none => throw (.missingField Part.kind.name)
  | some (.kind, tag, rest) =>
    let kind ← Kind.read held tag
    match ← nextPart rest with
    | none => if kind = .empty then return .empty else throw (.missingField Part.content.name)
    | some (.kind, _, _) => throw (.duplicateField Part.kind.name)
    | some (.content, content, rest) =>
      let value ← readContent kind content
      rejectRepeated rest
      return value
  | some (.content, content, rest) =>
    if content.isKeepable levels then
      match ← nextPart rest with
      | none => throw (.missingField Part.kind.name)
      | some (.content, _, _) => throw (.duplicateField Part.content.name)
      | some (.kind, tag, rest) =>
        let value ← readContent (← Kind.read held tag) content
        rejectRepeated rest
        return value
    else throw .malformed

/-- Reads a value inside of `depth` arrays and objects. `held` says that it was held as a tree while
the text around it was read. -/
def ofTree (held : Bool) (depth : Nat) : Tree → Read Value
  | .object members => readMembers held (Tree.greatestDepth - (depth + 1)) members
  | .array [tag, content] => do readContent (← Kind.readItem held tag) content
  | .array (tag :: _) => do
    let _ ← Kind.readItem held tag
    throw .malformed
  | _ => throw .malformed

end Attestation.Value
