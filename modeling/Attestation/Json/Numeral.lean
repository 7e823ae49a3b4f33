import Attestation.Number.Binary64

namespace Attestation.Json

structure Numeral where
  negative : Bool
  whole : List Char
  fraction : List Char
  power : Option (Bool × List Char)
  deriving DecidableEq

/-- What a numeral means: a whole number of at most 64 bits, or else the nearest binary number. -/
inductive Quantity where
  | integer (number : Int)
  | real (negative : Bool) (magnitude : Binary64)
  deriving DecidableEq

namespace Numeral

def unsignedLimit : Nat := UInt64.size
def signedLimit : Nat := UInt64.size / 2

def powerLimit : Nat := UInt32.size / 2

def accumulate (significand : Nat) : List Char → Nat × List Char
  | [] => (significand, [])
  | digit :: rest =>
    let next := significand * 10 + Text.number [digit]
    if next < unsignedLimit then accumulate next rest else (significand, digit :: rest)

def significand (n : Numeral) : Nat × Int :=
  let (whole, dropped) := accumulate 0 n.whole
  let (all, unread) := accumulate whole n.fraction
  (all, (dropped.length : Int) - ((n.fraction.length : Int) - (unread.length : Int)))

def magnitude? (n : Numeral) : Option Binary64 :=
  let (digits, shift) := n.significand
  match n.power with
  | none => Binary64.ofScientific? digits shift
  | some (negative, power) =>
    let power := Text.number power
    if power < powerLimit then
      Binary64.ofScientific? digits (if negative then shift - power else shift + power)
    -- beyond every bound, so it is zero or infinite whatever the digits are
    else if negative || digits == 0 then Binary64.round? 0 1
    else none

def isWhole (n : Numeral) : Bool := n.fraction.isEmpty && n.power.isNone

/-- The whole number that is spelled, unless it is a minus zero or needs more than 64 bits. -/
def integer? (n : Numeral) : Option Int :=
  let number := Text.number n.whole
  if !n.isWhole then none
  else if n.negative then if 0 < number && number ≤ signedLimit then some (-(number : Int)) else none
  else if number < unsignedLimit then some number else none

def quantity? (n : Numeral) : Option Quantity :=
  match n.integer? with
  | some number => some (.integer number)
  | none => n.magnitude?.map (.real n.negative)

end Numeral

end Attestation.Json
