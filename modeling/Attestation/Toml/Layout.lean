import Attestation.Toml.Document

namespace Attestation.Toml

structure LayoutField (σ : Type) where
  key : String
  read : Tree → σ → Option σ
  write : σ → Option Item

/-- How a structure is kept in a section. Entries that are left out stand for what `start` has. -/
structure Layout (σ : Type) where
  fields : List (LayoutField σ)
  start : σ

namespace Layout

variable {σ : Type}

def readEntries (entries : Entries) : List (LayoutField σ) → σ → Option σ
  | [], state => some state
  | field :: fields, state =>
    match entries.get? field.key with
    | none => readEntries entries fields state
    | some tree => (field.read tree state).bind (readEntries entries fields)

def readItems : List Tree → List (LayoutField σ) → σ → Option σ
  | item :: items, field :: fields, state =>
    (field.read item state).bind (readItems items fields)
  | _, _, state => some state

/-- Reads a structure from a table, or from an array of its fields. A date has parts, but none that
is a field. -/
def read (layout : Layout σ) : Tree → Option σ
  | .table _ entries => readEntries entries layout.fields layout.start
  | .array items | .tables items => readItems items layout.fields layout.start
  | .dateTime => some layout.start
  | .string _ | .integer _ | .boolean _ | .float => none

def write (layout : Layout σ) (state : σ) : List (String × Item) :=
  layout.fields.filterMap fun field => (field.write state).map fun item => (field.key, item)

end Layout

namespace Tree

def string? : Tree → Option String
  | .string content => some content
  | _ => none

def boolean? : Tree → Option Bool
  | .boolean flag => some flag
  | _ => none

def integer? (least greatest : Int) : Tree → Option Int
  | .integer number => if least ≤ number ∧ number ≤ greatest then some number else none
  | _ => none

def strings? : Tree → Option (List String)
  | .array items | .tables items => items.mapM string?
  | _ => none

def isHollow : Tree → Bool
  | .array items | .tables items => items.isEmpty
  | .table _ entries => entries.isEmpty
  | _ => false

def choice? : Tree → Option String
  | .string name => some name
  | .table _ [(name, value)] => if value.isHollow then some name else none
  | _ => none

end Tree

end Attestation.Toml
