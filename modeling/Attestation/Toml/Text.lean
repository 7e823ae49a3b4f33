import Attestation.Text

namespace Attestation.Toml

abbrev Scan (α : Type) := List Char → Option (α × List Char)

def isBlank (c : Char) : Bool := c == ' ' || c == '\t'

def isPlain (c : Char) : Bool := c == '\t' || (0x20 ≤ c.toNat && c.toNat != 0x7f)

def skipBlanks (text : List Char) : List Char := text.dropWhile isBlank

def afterNewline? : List Char → Option (List Char)
  | '\n' :: rest => some rest
  | '\r' :: '\n' :: rest => some rest
  | _ => none

def skipComment : List Char → List Char
  | '#' :: rest => rest.dropWhile isPlain
  | text => text

def afterLine? (text : List Char) : Option (List Char) :=
  match skipComment (skipBlanks text) with
  | [] => some []
  | rest => afterNewline? rest

def skipLines : Nat → List Char → Option (List Char)
  | 0, text => some text
  | fuel + 1, text =>
    match skipBlanks text with
    | '#' :: rest =>
      match afterNewline? (rest.dropWhile isPlain) with
      | some rest => skipLines fuel rest
      | none => none
    | rest =>
      match afterNewline? rest with
      | some rest => skipLines fuel rest
      | none => some rest

def skipFiller (text : List Char) : Option (List Char) := skipLines text.length text

def expect (c : Char) : Scan Unit
  | d :: rest => if d == c then some ((), rest) else none
  | [] => none

end Attestation.Toml
