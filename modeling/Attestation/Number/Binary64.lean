import Attestation.Text

namespace Attestation

structure Binary64 where
  significand : Nat
  exponent : Int
  deriving DecidableEq

namespace Binary64

def leastExponent : Int := -1074
def greatestExponent : Int := 971

def scale (num den : Nat) (exponent : Int) : Nat × Nat :=
  if exponent < 0 then (num * Nat.pow 2 exponent.natAbs, den)
  else (num, den * Nat.pow 2 exponent.natAbs)

def nearest (num den : Nat) : Nat :=
  let below := num / den
  let rest := 2 * (num % den)
  if rest < den then below
  else if den < rest then below + 1
  else if below % 2 = 0 then below else below + 1

/-- The exponent under which the significand of `num / den` has 53 bits, or the least there is. -/
def exponentFor (num den : Nat) : Int :=
  let guess : Int := (Nat.log2 num : Int) - (Nat.log2 den : Int) - 53
  let scaled := scale num den guess
  max leastExponent (if Nat.pow 2 53 ≤ scaled.1 / scaled.2 then guess + 1 else guess)

def round? (num den : Nat) : Option Binary64 :=
  let exponent := exponentFor num den
  let scaled := scale num den exponent
  let significand := nearest scaled.1 scaled.2
  let result : Binary64 :=
    if significand = Nat.pow 2 53 then ⟨Nat.pow 2 52, exponent + 1⟩ else ⟨significand, exponent⟩
  if result.exponent ≤ greatestExponent then some result else none

def isZero (x : Binary64) : Bool := x.significand == 0

def fraction (x : Binary64) : Nat × Nat := scale x.significand 1 (-x.exponent)

def mul? (x y : Binary64) : Option Binary64 :=
  round? (x.fraction.1 * y.fraction.1) (x.fraction.2 * y.fraction.2)

def div? (x y : Binary64) : Option Binary64 :=
  round? (x.fraction.1 * y.fraction.2) (x.fraction.2 * y.fraction.1)

def powerOfTen? (power : Nat) : Option Binary64 := round? (Nat.pow 10 power) 1

def greatestPower : Nat := 308

def shrink (x : Binary64) (power : Nat) : Option Binary64 :=
  if power ≤ greatestPower then do x.div? (← powerOfTen? power)
  else if x.isZero then some x
  else do
    -- the whole power would be infinite, so it is taken away in parts
    let smaller ← x.div? (← powerOfTen? greatestPower)
    smaller.shrink (power - greatestPower)
termination_by power
decreasing_by simp only [greatestPower] at *; omega

/-- A 64-bit whole number times a power of ten, with one rounding for each of the two and one for
each product or quotient. -/
def ofScientific? (number : Nat) (power : Int) : Option Binary64 := do
  let x ← round? number 1
  if power < 0 then x.shrink power.natAbs
  else if power.natAbs ≤ greatestPower then x.mul? (← powerOfTen? power.natAbs)
  else if x.isZero then some x else none

/-- The half-open gaps to the neighbours, as a fraction of the gap above: a power of two is half as
far from the number below it. -/
def atBoundary (x : Binary64) : Bool :=
  x.significand == Nat.pow 2 52 && decide (leastExponent < x.exponent)

/-- Whether `digits · 10 ^ power` rounds to `x`. Both ends of the interval belong to it when the
significand is even. -/
def reads (x : Binary64) (digits : Nat) (power : Int) : Bool :=
  let num := digits * Nat.pow 10 power.toNat
  let den := Nat.pow 10 (-power).toNat
  let value := scale (4 * num) den x.exponent
  let low := 4 * x.significand - (if x.atBoundary then 1 else 2)
  let high := 4 * x.significand + 2
  if x.significand % 2 = 0 then low * value.2 ≤ value.1 && value.1 ≤ high * value.2
  else low * value.2 < value.1 && value.1 < high * value.2

def magnitude (x : Binary64) : Int :=
  let value := x.fraction
  if value.2 ≤ value.1 then ((Text.numeral (value.1 / value.2)).length : Int) - 1
  else
    let inverse := (Text.numeral (value.2 / value.1)).length
    if value.2 ≤ value.1 * Nat.pow 10 (inverse - 1) then -((inverse : Int) - 1) else -(inverse : Int)

/-- The better of the two decimals with `count` digits beside `x` that read back as `x`. -/
def withDigits? (x : Binary64) (count : Nat) : Option (Nat × Int) :=
  let power := x.magnitude - (count : Int) + 1
  let value := x.fraction
  let num := value.1 * Nat.pow 10 (-power).toNat
  let den := value.2 * Nat.pow 10 power.toNat
  let below := num / den
  let upperFirst := decide (den < 2 * (num % den)) ||
    (decide (den = 2 * (num % den)) && decide (below % 2 = 1))
  let candidates := if upperFirst then [below + 1, below] else [below, below + 1]
  (candidates.find? fun digits => x.reads digits power).map fun digits =>
    -- next to a row of nines is a number with one digit more
    if digits = Nat.pow 10 count then (Nat.pow 10 (count - 1), power + 1) else (digits, power)

def shortest (x : Binary64) : Nat × Int :=
  if x.isZero then (0, 0)
  else ((List.range 17).findSome? fun n => x.withDigits? (n + 1)).getD (0, 0)

def positional (digits places : Nat) : List Char :=
  let shifted := Text.padZeros (places + 1) (Text.numeral digits)
  let whole := shifted.take (shifted.length - places)
  whole ++ '.' :: shifted.drop (shifted.length - places)

def scientific (digits : Nat) (power : Int) : List Char :=
  let text := Text.numeral digits
  let mantissa := text.take 1 ++ (if text.length = 1 then [] else '.' :: text.drop 1)
  let exponent := power + (text.length : Int) - 1
  mantissa ++ 'e' :: (if exponent < 0 then '-' else '+') :: Text.numeral exponent.natAbs

def mostWhole : Int := 16

def mostLeadingZeros : Int := 4

/-- The shortest text that reads back as `x`. Numbers that are neither very large nor very small are
written positionally, and always with a decimal point. -/
def toText (x : Binary64) : List Char :=
  let (digits, power) := x.shortest
  let whole := ((Text.numeral digits).length : Int) + power
  if digits = 0 then positional 0 1
  else if whole < -mostLeadingZeros || mostWhole < whole then scientific digits power
  else if 0 ≤ power then positional (digits * Nat.pow 10 (power.toNat + 1)) 1
  else positional digits power.natAbs

end Binary64

end Attestation
