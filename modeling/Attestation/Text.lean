namespace Attestation.Text

/-- The code points with the Unicode property White_Space. -/
def blankCodes : List Nat :=
  [0x09, 0x0a, 0x0b, 0x0c, 0x0d, 0x20, 0x85, 0xa0, 0x1680, 0x2000, 0x2001, 0x2002, 0x2003, 0x2004,
    0x2005, 0x2006, 0x2007, 0x2008, 0x2009, 0x200a, 0x2028, 0x2029, 0x202f, 0x205f, 0x3000]

def isBlank (c : Char) : Bool := blankCodes.contains c.toNat

def skipBlanks (text : List Char) : List Char := text.dropWhile isBlank

def trimBlanks (text : List Char) : List Char := (skipBlanks (skipBlanks text).reverse).reverse

theorem skipBlanks_cons {c : Char} (rest : List Char) (solid : isBlank c = false) :
    skipBlanks (c :: rest) = c :: rest := by
  simp [skipBlanks, solid]

def number (digits : List Char) : Nat := Nat.ofDigitChars 10 digits 0

def numeral (n : Nat) : List Char := Nat.toDigits 10 n

theorem number_numeral (n : Nat) : number (numeral n) = n :=
  Nat.ofDigitChars_ten_toDigits

theorem isDigit_of_mem_numeral {n : Nat} {c : Char} (member : c ∈ numeral n) : c.isDigit = true :=
  Nat.isDigit_of_mem_toDigits (by decide) (by decide) member

theorem numeral_ne_nil (n : Nat) : numeral n ≠ [] := Nat.toDigits_ne_nil

def padZeros (width : Nat) (digits : List Char) : List Char :=
  List.replicate (width - digits.length) '0' ++ digits

theorem number_padZeros (width : Nat) (digits : List Char) :
    number (padZeros width digits) = number digits := by
  simp [number, padZeros, Nat.ofDigitChars_append, Nat.ofDigitChars_replicate_zero]

def signedNumeral (n : Int) : List Char :=
  if n < 0 then '-' :: numeral n.natAbs else numeral n.natAbs

end Attestation.Text
