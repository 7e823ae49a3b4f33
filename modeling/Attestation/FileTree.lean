namespace Attestation

inductive Stored where
  | nothing
  | unreadable
  | text (content : String)
  deriving DecidableEq

/-- Why no directory can be made at a path: one on the way to it is missing, or is none, or a name
is too long, or something else has the name. -/
inductive PathFault where
  | missing
  | notDirectory
  | nameTooLong
  | nameTaken
  deriving DecidableEq

inductive SaveFault where
  | noDirectory (fault : PathFault)
  | unwritable
  deriving DecidableEq

structure Storage (m : Type → Type) where
  look : String → m Stored
  save : String → String → m (Except SaveFault Unit)

abbrev Location := List String

structure FileTree where
  start : Location
  directories : List Location
  files : List (Location × String)

/-- A path as the names that it is made of. A single dot stands for no step at all. -/
structure Route where
  isAbsolute : Bool
  names : List String

namespace Route

def ofText (path : String) : Route :=
  ⟨path.startsWith "/", (path.splitOn "/").filter fun name => !name.isEmpty && name != "."⟩

def size (route : Route) : Nat :=
  let sizes := route.names.foldl (fun size name => size + name.utf8ByteSize + 1) 0
  if route.isAbsolute then sizes else sizes - 1

def endsInSlash (path : String) : Bool := path.endsWith "/" || path.endsWith "/."

end Route

namespace FileTree

def greatestName : Nat := 255

def greatestPath : Nat := 4095

def isDirectory (tree : FileTree) (place : Location) : Bool :=
  place.isEmpty || tree.directories.contains place

def file? (tree : FileTree) (place : Location) : Option String :=
  (tree.files.find? fun file => file.1 == place).map (·.2)

def origin (tree : FileTree) (route : Route) : Location :=
  if route.isAbsolute then [] else tree.start

def walk (tree : FileTree) : Location → List String → Except PathFault Location
  | place, [] => .ok place
  | place, name :: rest =>
    if tree.isDirectory place then
      if name == ".." then tree.walk place.dropLast rest
      else if greatestName < name.utf8ByteSize then .error .nameTooLong
      else tree.walk (place ++ [name]) rest
    else .error (if (tree.file? place).isSome then .notDirectory else .missing)

def find? (tree : FileTree) (path : String) : Option Location :=
  let route := Route.ofText path
  if path.isEmpty || greatestPath < path.utf8ByteSize then none
  else (tree.walk (tree.origin route) route.names).toOption

def look (tree : FileTree) (path : String) : Stored :=
  match tree.find? path with
  | none => .nothing
  | some place =>
    if tree.isDirectory place then .unreadable
    else
      match tree.file? place with
      | some content => if Route.endsInSlash path then .nothing else .text content
      | none => .nothing

def makeDirectory (tree : FileTree) (route : Route) : Except PathFault FileTree := do
  if greatestPath < route.size then throw .nameTooLong
  let place ← tree.walk (tree.origin route) route.names
  if tree.isDirectory place then return tree
  else if (tree.file? place).isSome then throw .nameTaken
  else return { tree with directories := place :: tree.directories }

/-- Makes the directory at the end of some names, which stand in reverse. Where one on the way is
missing, those above are made first. -/
def makeDirectories (tree : FileTree) (isAbsolute : Bool) : List String → Except PathFault FileTree
  | [] => .ok tree
  | name :: above =>
    let route : Route := ⟨isAbsolute, (name :: above).reverse⟩
    match tree.makeDirectory route with
    | .error .missing => do (← tree.makeDirectories isAbsolute above).makeDirectory route
    | result => result

def put (tree : FileTree) (place : Location) (content : String) : FileTree :=
  { tree with files := (place, content) :: tree.files.filter fun file => file.1 != place }

def save (tree : FileTree) (path content : String) : Except SaveFault FileTree := do
  let route := Route.ofText path
  let tree ← (tree.makeDirectories route.isAbsolute route.names.dropLast.reverse).mapError
    SaveFault.noDirectory
  match tree.find? path with
  | none => throw .unwritable
  | some place =>
    if tree.isDirectory place || Route.endsInSlash path then throw .unwritable
    else return tree.put place content

def ofFiles (start : Location) (files : List (String × String)) : FileTree :=
  files.foldl (fun tree file => (tree.save file.1 file.2).toOption.getD tree)
    ⟨start, (List.range (start.length + 1)).map start.take, []⟩

/-- A tree of files as a storage. A text that cannot be saved leaves the tree as it is. -/
def storage : Storage (StateM FileTree) where
  look path := do return (← get).look path
  save path content := do
    match (← get).save path content with
    | .ok tree => do
      set tree
      return .ok ()
    | .error fault => return .error fault

end FileTree

end Attestation
