import Attestation.Toml.Text

namespace Attestation.Toml

/-! Strings of four forms: with escapes or without, on one line or on several. -/

def hexValue? (c : Char) : Option Nat :=
  if c.isDigit then some (c.toNat - '0'.toNat)
  else if 'a' ≤ c ∧ c ≤ 'f' then some (c.toNat - 'a'.toNat + 10)
  else if 'A' ≤ c ∧ c ≤ 'F' then some (c.toNat - 'A'.toNat + 10)
  else none

def spelledChar? (digits : List Char) : Option Char := do
  let code ← digits.foldlM (fun code c => return code * 16 + (← hexValue? c)) 0
  if h : code.isValidChar then some (Char.ofNatAux code h) else none

def shortEscape? : Char → Option Char
  | 'b' => some '\x08'
  | 't' => some '\t'
  | 'n' => some '\n'
  | 'f' => some '\x0c'
  | 'r' => some '\r'
  | '"' => some '"'
  | '\\' => some '\\'
  | _ => none

def prepend (c? : Option Char) (taken : Option (List Char × List Char)) :
    Option (List Char × List Char) := do
  let c ← c?
  let (cs, rest) ← taken
  return (c :: cs, rest)

def basicBody : Scan (List Char)
  | '"' :: rest => some ([], rest)
  | '\\' :: 'u' :: a :: b :: c :: d :: rest => prepend (spelledChar? [a, b, c, d]) (basicBody rest)
  | '\\' :: 'U' :: a :: b :: c :: d :: e :: f :: g :: h :: rest =>
    prepend (spelledChar? [a, b, c, d, e, f, g, h]) (basicBody rest)
  | '\\' :: c :: rest => prepend (shortEscape? c) (basicBody rest)
  | c :: rest => if isPlain c then prepend (some c) (basicBody rest) else none
  | [] => none

/-- Behind three quotes: up to two more of them belong to the string. -/
def closingQuotes (quote : Char) (text : List Char) : List Char × List Char :=
  match text with
  | a :: b :: rest =>
    if a == quote then if b == quote then ([a, b], rest) else ([a], b :: rest) else ([], text)
  | [a] => if a == quote then ([a], []) else ([], text)
  | [] => ([], [])

/-- The rest of a string on several lines. `skipping` is set behind a backslash that ends a line:
all blanks and line breaks that follow are left out. -/
def longBasicBody (skipping : Bool) : Scan (List Char)
  | '"' :: '"' :: '"' :: rest => some (closingQuotes '"' rest)
  | '\r' :: '\n' :: rest =>
    if skipping then longBasicBody true rest else prepend (some '\n') (longBasicBody false rest)
  | '\\' :: 'u' :: a :: b :: c :: d :: rest =>
    prepend (spelledChar? [a, b, c, d]) (longBasicBody false rest)
  | '\\' :: 'U' :: a :: b :: c :: d :: e :: f :: g :: h :: rest =>
    prepend (spelledChar? [a, b, c, d, e, f, g, h]) (longBasicBody false rest)
  | '\\' :: c :: rest =>
    if (afterNewline? (skipBlanks (c :: rest))).isSome then longBasicBody true (c :: rest)
    else prepend (shortEscape? c) (longBasicBody false rest)
  | c :: rest =>
    if skipping && (isBlank c || c == '\n') then longBasicBody true rest
    else if isPlain c || c == '\n' then prepend (some c) (longBasicBody false rest)
    else none
  | [] => none

def literalBody : Scan (List Char)
  | '\'' :: rest => some ([], rest)
  | c :: rest => if isPlain c then prepend (some c) (literalBody rest) else none
  | [] => none

def longLiteralBody : Scan (List Char)
  | '\'' :: '\'' :: '\'' :: rest => some (closingQuotes '\'' rest)
  | '\r' :: '\n' :: rest => prepend (some '\n') (longLiteralBody rest)
  | c :: rest =>
    if isPlain c || c == '\n' then prepend (some c) (longLiteralBody rest) else none
  | [] => none

def dropNewline (text : List Char) : List Char := (afterNewline? text).getD text

def basicString : Scan (List Char)
  | '"' :: rest => basicBody rest
  | _ => none

def literalString : Scan (List Char)
  | '\'' :: rest => literalBody rest
  | _ => none

def anyString : Scan (List Char)
  | '"' :: '"' :: '"' :: rest => longBasicBody false (dropNewline rest)
  | '\'' :: '\'' :: '\'' :: rest => longLiteralBody (dropNewline rest)
  | text@('"' :: _) => basicString text
  | text => literalString text

/-! Writing -/

def isControl (c : Char) : Bool :=
  (c.toNat < 0x20 && c != '\t' && c != '\n') || c.toNat == 0x7f

def longestRun (quote : Char) (run : Nat) : List Char → Nat
  | [] => run
  | c :: rest =>
    if c == quote then longestRun quote (run + 1) rest else max run (longestRun quote 0 rest)

def hexDigit (n : Nat) : Char := (Nat.digitChar n).toUpper

def escape (lines : Bool) (c : Char) : List Char :=
  if c == '\x08' then ['\\', 'b']
  else if c == '\t' then ['\\', 't']
  else if c == '\n' then if lines then ['\n'] else ['\\', 'n']
  else if c == '\x0c' then ['\\', 'f']
  else if c == '\r' then ['\\', 'r']
  else if c == '\\' then ['\\', '\\']
  else if isControl c then ['\\', 'u', '0', '0', hexDigit (c.toNat / 16), hexDigit (c.toNat % 16)]
  else [c]

/-- Spells a string with escapes. As many as `allowed` quotes in a row are written as they are, and
`run` of them have come before. -/
def escapeAll (lines : Bool) (allowed run : Nat) : List Char → List Char
  | [] => []
  | c :: rest =>
    if c == '"' then
      if run < allowed then '"' :: escapeAll lines allowed (run + 1) rest
      else '\\' :: '"' :: escapeAll lines allowed 0 rest
    else escape lines c ++ escapeAll lines allowed 0 rest

def onLines (quote : Char) (hasNewline : Bool) (body : List Char) : List Char :=
  [quote, quote, quote] ++ (if hasNewline then ['\n'] else []) ++ body ++ [quote, quote, quote]

/-- Writes a string in the first form that shows it without escapes: double quotes, single quotes,
three double quotes, three single quotes; and with escapes when there is none. -/
def quote (content : List Char) : List Char :=
  let controls := content.any isControl
  let newline := content.contains '\n'
  let backslash := content.contains '\\'
  let double := longestRun '"' 0 content
  let single := longestRun '\'' 0 content
  if !controls && !backslash && double == 0 && !newline then
    '"' :: escapeAll false 0 0 content ++ ['"']
  else if !controls && single == 0 && !newline then '\'' :: content ++ ['\'']
  else if !controls && !backslash && double ≤ 2 then
    onLines '"' newline (escapeAll true 2 0 content)
  else if !controls && single ≤ 2 then onLines '\'' newline content
  else if newline then onLines '"' newline (escapeAll true 2 0 content)
  else '"' :: escapeAll false 0 0 content ++ ['"']

end Attestation.Toml
