import Attestation.Toml.Quoted
import Attestation.Toml.Scalar
import Attestation.Toml.Tree

namespace Attestation.Toml

def isBareKeyChar (c : Char) : Bool := c.isAlphanum || c == '-' || c == '_'

def simpleKey (text : List Char) : Option (String × List Char) :=
  match text with
  | '"' :: _ => (basicString text).map fun (key, rest) => (String.ofList key, rest)
  | '\'' :: _ => (literalString text).map fun (key, rest) => (String.ofList key, rest)
  | _ =>
    let key := text.takeWhile isBareKeyChar
    if key.isEmpty then none else some (String.ofList key, text.dropWhile isBareKeyChar)

def keyParts : Nat → List Char → Option (List String × List Char)
  | 0, _ => none
  | fuel + 1, text => do
    let (part, rest) ← simpleKey (skipBlanks text)
    match skipBlanks rest with
    | '.' :: rest => do
      let (parts, rest) ← keyParts fuel rest
      return (part :: parts, rest)
    | rest => return ([part], rest)

/-- How many parts a key may have, and how deep arrays and braces may be nested, less one. -/
def nestingLimit : Nat := 80

def key (text : List Char) : Option ((List String × String) × List Char) := do
  let (parts, rest) ← keyParts text.length text
  if parts.length < nestingLimit then
    match parts.getLast? with
    | some last => some ((parts.dropLast, last), rest)
    | none => none
  else none

def boolean (text : List Char) : Option (Bool × List Char) :=
  match text with
  | 't' :: 'r' :: 'u' :: 'e' :: rest => some (true, rest)
  | 'f' :: 'a' :: 'l' :: 's' :: 'e' :: rest => some (false, rest)
  | _ => none

def scalar (text : List Char) : Option (Tree × List Char) :=
  match text with
  | '"' :: _ | '\'' :: _ => (anyString text).map fun (s, rest) => (.string (String.ofList s), rest)
  | _ =>
    (boolean text).map (fun (flag, rest) => (.boolean flag, rest)) <|>
      (dateTime text).map (fun rest => (.dateTime, rest)) <|>
      (float text).map (fun rest => (.float, rest)) <|>
      (integer text).map (fun (n, rest) => (.integer n, rest))

def items (value : Scan Tree) : Nat → List Char → Option (List Tree × List Char)
  | 0, _ => none
  | fuel + 1, text => do
    match ← skipFiller text with
    | ']' :: rest => return ([], rest)
    | text => do
      let (item, rest) ← value text
      match ← skipFiller rest with
      | ',' :: rest => do
        let (more, rest) ← items value fuel rest
        return (item :: more, rest)
      | ']' :: rest => return ([item], rest)
      | _ => none

def entry (value : Scan Tree) (text : List Char) :
    Option ((List String × String × Tree) × List Char) := do
  let ((path, last), rest) ← key text
  let (_, rest) ← expect '=' rest
  let (value, rest) ← value (skipBlanks rest)
  return ((path, last, value), rest)

def bracedEntries (value : Scan Tree) : Nat → Entries → List Char → Option (Entries × List Char)
  | 0, _, _ => none
  | fuel + 1, table, text => do
    let ((path, last, value'), rest) ← entry value text
    let table ← table.addDotted .dottedInBraces path last value'
    match skipBlanks rest with
    | ',' :: rest => bracedEntries value fuel table rest
    | '}' :: rest => return (table, rest)
    | _ => none

def braced (value : Scan Tree) (text : List Char) : Option (Entries × List Char) :=
  match skipBlanks text with
  | '}' :: rest => some ([], rest)
  | text => bracedEntries value text.length [] text

def value : Nat → Scan Tree
  | 0, text => scalar text
  | levels + 1, text =>
    match text with
    | '[' :: rest => (items (value levels) rest.length rest).map fun (items, rest) =>
        (.array items, rest)
    | '{' :: rest => (braced (value levels) rest).map fun (entries, rest) =>
        (.table .braces entries, rest)
    | _ => scalar text

def expression (draft : Draft) (text : List Char) : Option (Draft × List Char) :=
  match text with
  | '[' :: '[' :: rest => do
    let ((path, last), rest) ← key rest
    let (_, rest) ← expect ']' rest
    let (_, rest) ← expect ']' rest
    return (← draft.openNext path last, ← afterLine? rest)
  | '[' :: rest => do
    let ((path, last), rest) ← key rest
    let (_, rest) ← expect ']' rest
    return (← draft.openTable path last, ← afterLine? rest)
  | _ => do
    let ((path, last, value), rest) ← entry (value (nestingLimit - 1)) text
    return (← draft.addEntry path last value, ← afterLine? rest)

def lines : Nat → Draft → List Char → Option Draft
  | 0, draft, text => if text.isEmpty then some draft else none
  | fuel + 1, draft, text =>
    match skipBlanks text with
    | [] => some draft
    | rest =>
      match rest with
      | '#' :: _ | '\n' :: _ | '\r' :: _ => do lines fuel draft (← afterLine? rest)
      | _ => do
        let (draft, rest) ← expression draft rest
        lines fuel draft rest

def dropMark (text : List Char) : List Char :=
  match text with
  | '\ufeff' :: rest => rest
  | _ => text

def ofText? (text : String) : Option Entries := do
  let characters := dropMark text.toList
  (← lines characters.length .start characters).close

end Attestation.Toml
