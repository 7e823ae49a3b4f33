import Attestation.Program
import Std.Time.Date.PlainDate
import Std.Time.DateTime.Timestamp

namespace Attestation.Disk

/-- What the operating system says when a path leads through a file, to a directory, or to something
that may not be read. -/
def throughFileCode : UInt32 := 20
def directoryCode : UInt32 := 21
def forbiddenCode : UInt32 := 13

def showsPresence : IO.Error → Bool
  | .inappropriateType _ code _ => code = directoryCode
  | .permissionDenied _ code _ => code = forbiddenCode
  | .userError _ => true
  | _ => false

def lookAt (path : String) : IO Stored := do
  try
    return .text (← IO.FS.readFile path)
  catch error =>
    return if showsPresence error then .unreadable else .nothing

def makeDirectory (path : String) : IO (Except PathFault Unit) := do
  try
    IO.FS.createDir path
    return .ok ()
  catch
    | .noFileOrDirectory .. => return .error .missing
    | .inappropriateType _ code _ =>
      return .error (if code = throughFileCode then .notDirectory else .nameTaken)
    | .invalidArgument .. => return .error .nameTooLong
    | _ =>
      -- what has the name and cannot be read is a directory, which need not be made
      match ← lookAt path with
      | .unreadable => return .ok ()
      | _ => return .error .nameTaken

def makeDirectories : List String → IO (Except PathFault Unit)
  | [] => return .ok ()
  | name :: above => do
    let path := "/".intercalate (name :: above).reverse
    if path.isEmpty then return .ok ()
    match ← makeDirectory path with
    | .error .missing => do
      match ← makeDirectories above with
      | .ok () => makeDirectory path
      | .error fault => return .error fault
    | result => return result

def saveAt (path content : String) : IO (Except SaveFault Unit) := do
  match ← makeDirectories (path.splitOn "/").dropLast.reverse with
  | .error fault => return .error (.noDirectory fault)
  | .ok () =>
    try
      IO.FS.writeFile path content
      return .ok ()
    catch _ => return .error .unwritable

def storage : Storage IO where
  look := lookAt
  save := saveAt

end Attestation.Disk

namespace Attestation.Environment

def currentDay : IO Date := do
  let now ← Std.Time.Timestamp.now
  let day := Std.Time.PlainDate.ofEpochDay now.toDaysSinceUnixEpoch
  return (Date.ofParts? day.year.toInt day.month.val.toNat day.day.val.toNat).getD default

def newAttempt : IO Attempt := do
  let now ← Std.Time.Timestamp.now
  let drawn := (← IO.getRandomBytes 10).foldl (fun n byte => n * 256 + byte.toNat) 0
  return .ofTime now.toMillisecondsSinceUnixEpoch.toInt.toNat (.ofNat 74 drawn)

def current : IO Environment := do
  return ⟨← currentDay, ← newAttempt, ← IO.getEnv "RUST_LOG"⟩

end Attestation.Environment

open Attestation

def main (arguments : List String) : IO UInt32 := do
  let output ← respond Disk.storage (← Environment.current) arguments
  for line in output.logLines do
    IO.eprintln line
  IO.print output.report
  IO.eprint output.notes
  return output.status.toUInt32
