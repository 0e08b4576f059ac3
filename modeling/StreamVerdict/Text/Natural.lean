/-!
# Reading natural numbers

A natural number is one or more ASCII digits after an optional plus sign. It is read up to a
largest value; the first character that breaks a rule decides which fault is reported.
-/

namespace StreamVerdict.Text

/-- Why a text is no natural number. -/
inductive NumberFault where
  | empty
  | invalidDigit
  | tooLarge
  deriving DecidableEq

/-- The words for a fault. -/
def NumberFault.message : NumberFault → String
  | empty => "cannot parse integer from empty string"
  | invalidDigit => "invalid digit found in string"
  | tooLarge => "number too large to fit in target type"

/-- Reads the digits that follow a number read so far. -/
def readDigits (largest : Nat) : (value : Nat) → List Char → Except NumberFault Nat
  | value, [] => .ok value
  | value, c :: cs =>
    if !c.isDigit then .error .invalidDigit
    else
      let next := value * 10 + (c.toNat - '0'.toNat)
      if largest < next then .error .tooLarge else readDigits largest next cs

/-- Reads a number of at least one digit. A sign alone is an invalid digit. -/
def readNatural (largest : Nat) : List Char → Except NumberFault Nat
  | [] => .error .empty
  | ['+'] => .error .invalidDigit
  | '+' :: cs => readDigits largest 0 cs
  | cs => readDigits largest 0 cs

/-- The largest number of 64 bits. -/
def maxWord : Nat := UInt64.size - 1

/-- How many numbers of 64 bits with a sign are negative, and how many are not. -/
def signedHalf : Nat := UInt64.size / 2

end StreamVerdict.Text
