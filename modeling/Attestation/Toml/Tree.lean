namespace Attestation.Toml

/-- How a table came about: by a header of its own, by the header of a table inside of it, by a
dotted key, or in braces, where dotted keys make tables too. -/
inductive Origin where
  | header
  | innerHeader
  | dotted
  | braces
  | dottedInBraces
  deriving DecidableEq

inductive Tree where
  | string (content : String)
  | integer (number : Int)
  | boolean (flag : Bool)
  | float
  | dateTime
  | array (items : List Tree)
  | tables (items : List Tree)
  | table (origin : Origin) (entries : List (String × Tree))

abbrev Entries := List (String × Tree)

namespace Origin

def isImplicit : Origin → Bool
  | .innerHeader | .dotted | .dottedInBraces => true
  | .header | .braces => false

def isDotted : Origin → Bool
  | .dotted | .dottedInBraces => true
  | .header | .innerHeader | .braces => false

def isInBraces : Origin → Bool
  | .braces | .dottedInBraces => true
  | .header | .innerHeader | .dotted => false

end Origin

namespace Entries

def get? (entries : Entries) (key : String) : Option Tree :=
  (entries.find? fun entry => entry.1 == key).map (·.2)

def replace (entries : Entries) (key : String) (value : Tree) : Entries :=
  entries.map fun entry => if entry.1 == key then (key, value) else entry

def remove (entries : Entries) (key : String) : Entries :=
  entries.filter fun entry => entry.1 != key

/-- Changes the table at the end of a path, making tables of the origin `fresh` where there are
none. Of an array of tables the last is meant. A path of dotted keys leads through implicit tables
only, and a path of headers through none in braces. -/
def modifyAt (fresh : Origin) (change : Origin → Entries → Option Entries) :
    List String → Origin → Entries → Option Entries
  | [], origin, entries => change origin entries
  | key :: path, _, entries =>
    match entries.get? key with
    | none => do
      let inner ← modifyAt fresh change path fresh []
      return entries ++ [(key, .table fresh inner)]
    | some (.table origin inner) =>
      if (fresh.isDotted && !origin.isImplicit) || (origin.isInBraces && !fresh.isInBraces) then none
      else do
        let inner ← modifyAt fresh change path origin inner
        return entries.replace key (.table origin inner)
    | some (.tables items) =>
      match items.getLast? with
      | some (.table origin inner) => do
        let inner ← modifyAt fresh change path origin inner
        return entries.replace key (.tables (items.dropLast ++ [.table origin inner]))
      | _ => none
    | some _ => none

/-- Adds an entry under a key that may be dotted. The last part must be new, and what it is added to
must be the table at hand or one made by dotted keys. -/
def addDotted (fresh : Origin) (path : List String) (key : String) (value : Tree)
    (entries : Entries) : Option Entries :=
  modifyAt fresh (fun origin inner =>
    if origin.isDotted == path.isEmpty || (inner.get? key).isSome then none
    else some (inner ++ [(key, value)])) path .header entries

end Entries

structure Draft where
  root : Entries
  path : List String
  grows : Bool
  current : Entries

namespace Draft

def start : Draft := ⟨[], [], false, []⟩

def close (draft : Draft) : Option Entries :=
  match draft.path.getLast? with
  | none => some draft.current
  | some key =>
    Entries.modifyAt .innerHeader (fun _ parent =>
      let table := Tree.table .header draft.current
      match parent.get? key with
      | none => some (parent ++ [(key, if draft.grows then .tables [table] else table)])
      | some (.tables items) =>
        if draft.grows then some (parent.replace key (.tables (items ++ [table]))) else none
      | some _ => none) draft.path.dropLast .header draft.root

def addEntry (draft : Draft) (path : List String) (key : String) (value : Tree) : Option Draft := do
  return { draft with current := ← draft.current.addDotted .dotted path key value }

/-- Starts the table of a header. One that inner headers have made before is taken up again; any
other may not be there yet. -/
def openTable (draft : Draft) (path : List String) (key : String) : Option Draft := do
  let root ← draft.close
  let found ← lookup root path
  match found.get? key with
  | none => return ⟨root, path ++ [key], false, []⟩
  | some (.table .innerHeader inner) =>
    let root ← Entries.modifyAt .innerHeader (fun _ parent => some (parent.remove key)) path .header
      root
    return ⟨root, path ++ [key], false, inner⟩
  | some _ => none
where
  lookup (entries : Entries) : List String → Option Entries
    | [] => some entries
    | key :: path =>
      match entries.get? key with
      | none => some []
      | some (.table origin inner) => if origin.isInBraces then none else lookup inner path
      | some (.tables items) =>
        match items.getLast? with
        | some (.table _ inner) => lookup inner path
        | _ => none
      | some _ => none

def openNext (draft : Draft) (path : List String) (key : String) : Option Draft := do
  let root ← draft.close
  match (← openTable.lookup root path).get? key with
  | none | some (.tables _) => return ⟨root, path ++ [key], true, []⟩
  | some _ => none

end Draft

end Attestation.Toml
