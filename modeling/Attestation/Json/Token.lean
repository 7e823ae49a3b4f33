import Attestation.Json.Numeral

namespace Attestation.Json

/-- A character of a string as it is spelled: itself, or a 16-bit unit in hexadecimal. -/
inductive Piece where
  | plain (c : Char)
  | unit (code : Nat)
  deriving DecidableEq

namespace Piece

def isHigh (code : Nat) : Bool := 0xd800 ≤ code && code < 0xdc00
def isLow (code : Nat) : Bool := 0xdc00 ≤ code && code < 0xe000

def join (high low : Nat) : Char :=
  Char.ofNat (0x10000 + (high - 0xd800) * 0x400 + (low - 0xdc00))

def decode? : List Piece → Option (List Char)
  | [] => some []
  | .plain c :: rest => (decode? rest).map (c :: ·)
  | .unit high :: .unit low :: rest =>
    if isHigh high then if isLow low then (decode? rest).map (join high low :: ·) else none
    else if isLow high then none
    else (decode? (.unit low :: rest)).map (Char.ofNat high :: ·)
  | .unit code :: rest =>
    if isHigh code || isLow code then none else (decode? rest).map (Char.ofNat code :: ·)

end Piece

/-- The words of a text. A string that spells no sequence of characters has no content, and `broken`
stands for the first thing that is no word at all. -/
inductive Token where
  | openArray
  | closeArray
  | openObject
  | closeObject
  | comma
  | colon
  | null
  | boolean (flag : Bool)
  | number (numeral : Numeral)
  | string (content : Option String)
  | broken
  deriving DecidableEq

inductive Numeral.Stage where
  | sign
  | zero
  | whole
  | point
  | fraction
  | mark
  | markSign
  | power
  deriving DecidableEq

namespace Numeral

def Stage.isComplete : Stage → Bool
  | .zero | .whole | .fraction | .power => true
  | .sign | .point | .mark | .markSign => false

def addWhole (n : Numeral) (c : Char) : Numeral := { n with whole := n.whole ++ [c] }

def addFraction (n : Numeral) (c : Char) : Numeral := { n with fraction := n.fraction ++ [c] }

def addPower (n : Numeral) (c : Char) : Numeral :=
  { n with power := n.power.map fun (negative, digits) => (negative, digits ++ [c]) }

/-- The numeral after one more character, if the character continues it. The sign of a power is kept
as a power without digits. -/
def extend? (n : Numeral) (stage : Stage) (c : Char) : Option (Numeral × Stage) :=
  match stage with
  | .sign =>
    if c == '0' then some (n.addWhole c, .zero)
    else if c.isDigit then some (n.addWhole c, .whole) else none
  | .zero =>
    if c == '.' then some (n, .point) else if c == 'e' || c == 'E' then some (n, .mark) else none
  | .whole =>
    if c.isDigit then some (n.addWhole c, .whole)
    else if c == '.' then some (n, .point)
    else if c == 'e' || c == 'E' then some (n, .mark) else none
  | .point => if c.isDigit then some (n.addFraction c, .fraction) else none
  | .fraction =>
    if c.isDigit then some (n.addFraction c, .fraction)
    else if c == 'e' || c == 'E' then some (n, .mark) else none
  | .mark =>
    if c.isDigit then some ({ n with power := some (false, [c]) }, .power)
    else if c == '+' then some ({ n with power := some (false, []) }, .markSign)
    else if c == '-' then some ({ n with power := some (true, []) }, .markSign) else none
  | .markSign | .power => if c.isDigit then some (n.addPower c, .power) else none

def mayEnd (stage : Stage) (c : Char) : Bool :=
  stage.isComplete && !(stage == .zero && c.isDigit)

end Numeral

inductive Scanner.Mode where
  | between
  | word (rest : List Char) (token : Token)
  | number (numeral : Numeral) (stage : Numeral.Stage)
  | quoted (pieces : List Piece)
  | escape (pieces : List Piece)
  | unit (pieces : List Piece) (digits : Nat) (code : Nat)
  | stuck
  deriving DecidableEq

structure Scanner where
  tokens : List Token
  mode : Scanner.Mode

namespace Scanner

def start : Scanner := ⟨[], .between⟩

def emit (tokens : List Token) (token : Token) : Scanner := ⟨token :: tokens, .between⟩

def fault (tokens : List Token) : Scanner := ⟨.broken :: tokens, .stuck⟩

def isSpace (c : Char) : Bool := c == ' ' || c == '\t' || c == '\n' || c == '\r'

def hexDigit? (c : Char) : Option Nat :=
  if c.isDigit then some (c.toNat - '0'.toNat)
  else if 'a' ≤ c ∧ c ≤ 'f' then some (c.toNat - 'a'.toNat + 10)
  else if 'A' ≤ c ∧ c ≤ 'F' then some (c.toNat - 'A'.toNat + 10)
  else none

def shortEscape? : Char → Option Char
  | '"' => some '"'
  | '\\' => some '\\'
  | '/' => some '/'
  | 'b' => some '\x08'
  | 'f' => some '\x0c'
  | 'n' => some '\n'
  | 'r' => some '\r'
  | 't' => some '\t'
  | _ => none

def begin (tokens : List Token) (c : Char) : Scanner :=
  if isSpace c then ⟨tokens, .between⟩
  else match c with
    | '[' => emit tokens .openArray
    | ']' => emit tokens .closeArray
    | '{' => emit tokens .openObject
    | '}' => emit tokens .closeObject
    | ',' => emit tokens .comma
    | ':' => emit tokens .colon
    | '"' => ⟨tokens, .quoted []⟩
    | 'n' => ⟨tokens, .word ['u', 'l', 'l'] .null⟩
    | 't' => ⟨tokens, .word ['r', 'u', 'e'] (.boolean true)⟩
    | 'f' => ⟨tokens, .word ['a', 'l', 's', 'e'] (.boolean false)⟩
    | '-' => ⟨tokens, .number ⟨true, [], [], none⟩ .sign⟩
    | _ =>
      match Numeral.extend? ⟨false, [], [], none⟩ .sign c with
      | some (numeral, stage) => ⟨tokens, .number numeral stage⟩
      | none => fault tokens

def content (pieces : List Piece) : Option String :=
  (Piece.decode? pieces.reverse).map String.ofList

def step (s : Scanner) (c : Char) : Scanner :=
  match s.mode with
  | .between => begin s.tokens c
  | .word [] _ => fault s.tokens
  | .word [last] token => if c == last then emit s.tokens token else fault s.tokens
  | .word (next :: rest) token =>
    if c == next then ⟨s.tokens, .word rest token⟩ else fault s.tokens
  | .number numeral stage =>
    match numeral.extend? stage c with
    | some (numeral, stage) => ⟨s.tokens, .number numeral stage⟩
    | none =>
      if Numeral.mayEnd stage c then begin (.number numeral :: s.tokens) c else fault s.tokens
  | .quoted pieces =>
    if c == '"' then emit s.tokens (.string (content pieces))
    else if c == '\\' then ⟨s.tokens, .escape pieces⟩
    else if c.toNat < 0x20 then fault s.tokens
    else ⟨s.tokens, .quoted (.plain c :: pieces)⟩
  | .escape pieces =>
    if c == 'u' then ⟨s.tokens, .unit pieces 0 0⟩
    else match shortEscape? c with
      | some meant => ⟨s.tokens, .quoted (.plain meant :: pieces)⟩
      | none => fault s.tokens
  | .unit pieces digits code =>
    match hexDigit? c with
    | none => fault s.tokens
    | some digit =>
      let code := code * 16 + digit
      if digits < 3 then ⟨s.tokens, .unit pieces (digits + 1) code⟩
      else ⟨s.tokens, .quoted (.unit code :: pieces)⟩
  | .stuck => s

def finish (s : Scanner) : List Token :=
  match s.mode with
  | .between | .stuck => s.tokens.reverse
  | .number numeral stage =>
    if stage.isComplete then (.number numeral :: s.tokens).reverse else (.broken :: s.tokens).reverse
  | _ => (.broken :: s.tokens).reverse

end Scanner

def tokens (text : List Char) : List Token := (text.foldl Scanner.step .start).finish

end Attestation.Json
