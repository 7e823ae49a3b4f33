import Attestation.Date
import Attestation.Number.Binary64
import Attestation.Toml.Text

namespace Attestation.Toml

/-! Numbers, dates and times. Only whole numbers have a meaning here; of the rest it matters that
they are written correctly. -/

/-- Digits behind a first one. An underscore may stand between two of them. -/
def moreDigits (isDigit : Char → Bool) : List Char → List Char × List Char
  | '_' :: c :: rest =>
    if isDigit c then
      let (digits, rest) := moreDigits isDigit rest
      (c :: digits, rest)
    else ([], '_' :: c :: rest)
  | c :: rest =>
    if isDigit c then
      let (digits, rest) := moreDigits isDigit rest
      (c :: digits, rest)
    else ([], c :: rest)
  | [] => ([], [])

def digits (isDigit : Char → Bool) : Scan (List Char)
  | c :: rest =>
    if isDigit c then
      let (more, rest) := moreDigits isDigit rest
      some (c :: more, rest)
    else none
  | [] => none

def sign (text : List Char) : Bool × List Char :=
  match text with
  | '-' :: rest => (true, rest)
  | '+' :: rest => (false, rest)
  | _ => (false, text)

def wholeDigits : Scan (List Char)
  | '0' :: rest => some (['0'], rest)
  | text => digits Char.isDigit text

def leastInteger : Int := Int64.minValue.toInt
def greatestInteger : Int := Int64.maxValue.toInt

def inRange (n : Int) : Option Int :=
  if leastInteger ≤ n ∧ n ≤ greatestInteger then some n else none

def digitValue (c : Char) : Nat :=
  if c.isDigit then c.toNat - '0'.toNat
  else if 'a' ≤ c ∧ c ≤ 'f' then c.toNat - 'a'.toNat + 10
  else c.toNat - 'A'.toNat + 10

def inBase (base : Nat) (digits : List Char) : Nat :=
  digits.foldl (fun n c => n * base + digitValue c) 0

def isHexDigit (c : Char) : Bool :=
  c.isDigit || ('a' ≤ c && c ≤ 'f') || ('A' ≤ c && c ≤ 'F')

def isOctalDigit (c : Char) : Bool := '0' ≤ c && c ≤ '7'

def isBinaryDigit (c : Char) : Bool := c == '0' || c == '1'

def prefixed (base : Nat) (isDigit : Char → Bool) (text : List Char) :
    Option (Int × List Char) := do
  let (digits, rest) ← digits isDigit text
  return (← inRange (inBase base digits), rest)

def decimal (text : List Char) : Option (Int × List Char) := do
  let (negative, rest) := sign text
  let (digits, rest) ← wholeDigits rest
  let n : Int := Text.number digits
  return (← inRange (if negative then -n else n), rest)

def integer : Scan Int
  | '0' :: 'x' :: rest => prefixed 16 isHexDigit rest
  | '0' :: 'o' :: rest => prefixed 8 isOctalDigit rest
  | '0' :: 'b' :: rest => prefixed 2 isBinaryDigit rest
  | text => decimal text

def fractionDigits : Scan (List Char)
  | '.' :: rest => digits Char.isDigit rest
  | _ => none

def powerOf? (text : List Char) : Option (Int × List Char) :=
  match text with
  | c :: rest =>
    if c == 'e' || c == 'E' then do
      let (negative, rest) := sign rest
      let (digits, rest) ← digits Char.isDigit rest
      let n : Int := Text.number digits
      return (if negative then -n else n, rest)
    else none
  | [] => none

def isFinite (digits : List Char) (power : Int) : Bool :=
  let n := Text.number digits
  if n == 0 then true
  else
    -- far from the bound the magnitude tells, and no great power has to be computed
    let magnitude := (Text.numeral n).length + power
    if magnitude ≤ 300 then true
    else if 320 < magnitude then false
    else (Binary64.round? (n * Nat.pow 10 power.toNat) (Nat.pow 10 (-power).toNat)).isSome

/-- A number with a fraction or a power. It may be too small for a binary number, but not too great;
a negative one may be both. -/
def fractional (text : List Char) : Option (List Char) := do
  let (negative, rest) := sign text
  let (whole, rest) ← wholeDigits rest
  let fraction := fractionDigits rest
  let (places, rest) := fraction.getD ([], rest)
  let power := powerOf? rest
  let (shift, rest) := power.getD (0, rest)
  if fraction.isNone && power.isNone then none
  else if negative || isFinite (whole ++ places) (shift - places.length) then some rest
  else none

def special (text : List Char) : Option (List Char) :=
  match (sign text).2 with
  | 'i' :: 'n' :: 'f' :: rest => some rest
  | 'n' :: 'a' :: 'n' :: rest => some rest
  | _ => none

def float (text : List Char) : Option (List Char) := fractional text <|> special text

def fixedNumber (width least greatest : Nat) : Scan Nat := fun text =>
  let digits := text.take width
  let n := Text.number digits
  if digits.length = width ∧ digits.all Char.isDigit ∧ least ≤ n ∧ n ≤ greatest then
    some (n, text.drop width)
  else none

def fullDate (text : List Char) : Option (List Char) := do
  let (year, rest) ← fixedNumber 4 0 9999 text
  let (_, rest) ← expect '-' rest
  let (month, rest) ← fixedNumber 2 1 12 rest
  let (_, rest) ← expect '-' rest
  let (_, rest) ← fixedNumber 2 1 (monthLength year month) rest
  return rest

def hourAndMinute (text : List Char) : Option (List Char) := do
  let (_, rest) ← fixedNumber 2 0 23 text
  let (_, rest) ← expect ':' rest
  let (_, rest) ← fixedNumber 2 0 59 rest
  return rest

/-- A time of day; the sixtieth second is a leap second. -/
def partialTime (text : List Char) : Option (List Char) := do
  let rest ← hourAndMinute text
  let (_, rest) ← expect ':' rest
  let (_, rest) ← fixedNumber 2 0 60 rest
  match rest with
  | '.' :: c :: more => if c.isDigit then some (more.dropWhile Char.isDigit) else some rest
  | _ => some rest

def timeOffset (text : List Char) : Option (List Char) :=
  match text with
  | 'Z' :: rest | 'z' :: rest => some rest
  | '+' :: rest | '-' :: rest => hourAndMinute rest
  | _ => none

def timeOfDate (text : List Char) : Option (List Char) :=
  match text with
  | 'T' :: rest | 't' :: rest | ' ' :: rest => do
    let rest ← partialTime rest
    return (timeOffset rest).getD rest
  | _ => none

def dateTime (text : List Char) : Option (List Char) :=
  match fullDate text with
  | some rest => some ((timeOfDate rest).getD rest)
  | none => partialTime text

end Attestation.Toml
