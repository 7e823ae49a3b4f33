import Attestation.Text

namespace Attestation

/-- Every fourth year is a leap year, save the centuries that 400 does not divide. Years before 1
are counted 0, -1, … and follow the same rule. -/
def isLeapYear (year : Int) : Bool :=
  year % 4 == 0 && (year % 100 != 0 || year % 400 == 0)

def monthLength (year : Int) (month : Nat) : Nat :=
  match month with
  | 1 | 3 | 5 | 7 | 8 | 10 | 12 => 31
  | 4 | 6 | 9 | 11 => 30
  | 2 => if isLeapYear year then 29 else 28
  | _ => 0

namespace Date

def firstYear : Int := -262143
def lastYear : Int := 262142

def Valid (year : Int) (month day : Nat) : Prop :=
  firstYear ≤ year ∧ year ≤ lastYear ∧ 1 ≤ day ∧ day ≤ monthLength year month

instance (year : Int) (month day : Nat) : Decidable (Valid year month day) :=
  inferInstanceAs (Decidable (_ ∧ _))

end Date

/-- A day of the Gregorian calendar, which is extended to all years. -/
structure Date where
  year : Int
  month : Nat
  day : Nat
  valid : Date.Valid year month day
  deriving DecidableEq

namespace Date

def ofParts? (year : Int) (month day : Nat) : Option Date :=
  if valid : Valid year month day then some ⟨year, month, day, valid⟩ else none

theorem ofParts?_self (d : Date) : ofParts? d.year d.month d.day = some d := by
  simp [ofParts?, d.valid]

instance : Inhabited Date := ⟨⟨1970, 1, 1, by decide⟩⟩

def daysBeforeYear (year : Int) : Int :=
  365 * year + (year + 3) / 4 - (year + 99) / 100 + (year + 399) / 400

def daysBeforeMonth (year : Int) : Nat → Nat
  | 0 => 0
  | month + 1 => daysBeforeMonth year month + monthLength year month

/-- The position of a date on the calendar: the first of January of year 0 is 1. -/
def dayNumber (d : Date) : Int :=
  daysBeforeYear d.year + daysBeforeMonth d.year d.month + d.day

def distance (a b : Date) : Nat := (a.dayNumber - b.dayNumber).natAbs

def next? (d : Date) : Option Date :=
  if d.day < monthLength d.year d.month then ofParts? d.year d.month (d.day + 1)
  else if d.month < 12 then ofParts? d.year (d.month + 1) 1
  else ofParts? (d.year + 1) 1 1

theorem distance_comm (a b : Date) : a.distance b = b.distance a := by
  simp only [distance]
  omega

open Text

/-- Years outside 0 to 9999 are written with a sign, and every year with at least four digits. -/
def yearText (year : Int) : List Char :=
  let digits := padZeros 4 (numeral year.natAbs)
  if year < 0 then '-' :: digits else if year ≤ 9999 then digits else '+' :: digits

def toText (d : Date) : String :=
  String.ofList (yearText d.year ++ '-' :: padZeros 2 (numeral d.month) ++
    '-' :: padZeros 2 (numeral d.day))

def readNumber? (width : Nat) (text : List Char) : Option (Nat × List Char) :=
  let digits := (text.take width).takeWhile Char.isDigit
  if digits.isEmpty then none else some (number digits, text.drop digits.length)

/-- Reads a year: four digits at most, or a sign and any number of them. -/
def readYear? (text : List Char) : Option (Int × List Char) :=
  match text with
  | '-' :: rest => (readNumber? rest.length rest).map fun (n, rest) => (-(n : Int), rest)
  | '+' :: rest => (readNumber? rest.length rest).map fun (n, rest) => ((n : Int), rest)
  | _ => (readNumber? 4 text).map fun (n, rest) => ((n : Int), rest)

def readHyphen? (text : List Char) : Option (List Char) :=
  match skipBlanks text with
  | '-' :: rest => some (skipBlanks rest)
  | _ => none

/-- Reads a date. Blanks may stand before and after each of its numbers. -/
def ofText? (text : String) : Option Date := do
  let (year, rest) ← readYear? (skipBlanks text.toList)
  let rest ← readHyphen? rest
  let (month, rest) ← readNumber? 2 rest
  let rest ← readHyphen? rest
  let (day, rest) ← readNumber? 2 rest
  if (skipBlanks rest).isEmpty then ofParts? year month day else none

end Date

end Attestation
