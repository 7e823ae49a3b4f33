import Attestation.Toml.Quoted
import Attestation.Toml.Tree

namespace Attestation.Toml

inductive Item where
  | text (content : String)
  | whole (number : Int)
  | flag (isSet : Bool)
  | texts (items : List String)
  deriving DecidableEq

structure Section where
  name : String
  entries : List (String × Item)
  deriving DecidableEq

namespace Item

def toTree : Item → Tree
  | .text content => .string content
  | .whole number => .integer number
  | .flag isSet => .boolean isSet
  | .texts items => .array (items.map .string)

def quoted (content : String) : List Char := quote content.toList

def onItsLine (content : String) : List Char :=
  [' ', ' ', ' ', ' '] ++ quoted content ++ [',', '\n']

def written : Item → List Char
  | .text content => quoted content
  | .whole number => Text.signedNumeral number
  | .flag true => ['t', 'r', 'u', 'e']
  | .flag false => ['f', 'a', 'l', 's', 'e']
  | .texts [] => ['[', ']']
  | .texts [content] => '[' :: quoted content ++ [']']
  | .texts contents => '[' :: '\n' :: contents.flatMap onItsLine ++ [']']

end Item

namespace Section

def toTree (part : Section) : Tree :=
  .table .header (part.entries.map fun entry => (entry.1, entry.2.toTree))

def writtenEntry (entry : String × Item) : List Char :=
  entry.1.toList ++ [' ', '=', ' '] ++ entry.2.written ++ ['\n']

def written (part : Section) : List Char :=
  '[' :: part.name.toList ++ [']', '\n'] ++ part.entries.flatMap writtenEntry

end Section

def toText (sections : List Section) : String :=
  String.ofList (['\n'].intercalate (sections.map Section.written))

end Attestation.Toml
