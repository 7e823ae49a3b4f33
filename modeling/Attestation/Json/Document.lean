import Attestation.Text

namespace Attestation.Json

inductive Document where
  | null
  | boolean (flag : Bool)
  | integer (number : Int)
  | string (content : String)
  | array (items : List Document)
  | object (members : List (String × Document))

namespace Document

instance : Inhabited Document := ⟨.null⟩

def ofOption {α : Type} (write : α → Document) : Option α → Document
  | none => .null
  | some a => write a

def strings (items : List String) : Document := .array (items.map .string)

def hexDigit (n : Nat) : Char := (Nat.digitChar n)

/-- The spelling of one character of a string: quotes and backslashes are escaped, and so are the
control characters below the space. -/
def escape (c : Char) : List Char :=
  if c == '"' then ['\\', '"']
  else if c == '\\' then ['\\', '\\']
  else if c == '\x08' then ['\\', 'b']
  else if c == '\x0c' then ['\\', 'f']
  else if c == '\n' then ['\\', 'n']
  else if c == '\r' then ['\\', 'r']
  else if c == '\t' then ['\\', 't']
  else if c.toNat < 0x20 then
    ['\\', 'u', '0', '0', hexDigit (c.toNat / 16), hexDigit (c.toNat % 16)]
  else [c]

def quote (content : String) : List Char := '"' :: content.toList.flatMap escape ++ ['"']

def word (flag : Bool) : List Char :=
  if flag then ['t', 'r', 'u', 'e'] else ['f', 'a', 'l', 's', 'e']

mutual

def compact : Document → List Char
  | .null => ['n', 'u', 'l', 'l']
  | .boolean flag => word flag
  | .integer number => Text.signedNumeral number
  | .string content => quote content
  | .array [] => ['[', ']']
  | .array (item :: rest) => '[' :: item.compact ++ compactItems rest
  | .object [] => ['{', '}']
  | .object ((name, value) :: rest) =>
    '{' :: quote name ++ ':' :: value.compact ++ compactMembers rest

def compactItems : List Document → List Char
  | [] => [']']
  | item :: rest => ',' :: item.compact ++ compactItems rest

def compactMembers : List (String × Document) → List Char
  | [] => ['}']
  | (name, value) :: rest => ',' :: quote name ++ ':' :: value.compact ++ compactMembers rest

end

def newline (depth : Nat) : List Char := '\n' :: List.replicate (2 * depth) ' '

mutual

def indented (depth : Nat) : Document → List Char
  | .null => ['n', 'u', 'l', 'l']
  | .boolean flag => word flag
  | .integer number => Text.signedNumeral number
  | .string content => quote content
  | .array [] => ['[', ']']
  | .array (item :: rest) =>
    '[' :: newline (depth + 1) ++ item.indented (depth + 1) ++ indentedItems depth rest
  | .object [] => ['{', '}']
  | .object ((name, value) :: rest) =>
    '{' :: newline (depth + 1) ++ quote name ++ ':' :: ' ' :: value.indented (depth + 1) ++
      indentedMembers depth rest

def indentedItems (depth : Nat) : List Document → List Char
  | [] => newline depth ++ [']']
  | item :: rest =>
    ',' :: newline (depth + 1) ++ item.indented (depth + 1) ++ indentedItems depth rest

def indentedMembers (depth : Nat) : List (String × Document) → List Char
  | [] => newline depth ++ ['}']
  | (name, value) :: rest =>
    ',' :: newline (depth + 1) ++ quote name ++ ':' :: ' ' :: value.indented (depth + 1) ++
      indentedMembers depth rest

end

def toText (document : Document) : String := String.ofList document.compact

def toIndentedText (document : Document) : String := String.ofList (document.indented 0)

end Document

end Attestation.Json
