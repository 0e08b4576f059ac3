/-!
# Decimal numbers out of reach

Numbers with a fraction are read as binary numbers of 64 bits. A decimal number is out of reach if
its nearest such number would be infinite.
-/

namespace StreamVerdict.Text

/-- The least number that is rounded to infinity: half a step above the largest finite one. -/
def roundsToInfinity : Nat :=
  Nat.pow 2 1024 - Nat.pow 2 970

/-- Whether `digits` times ten to the power of `exponent` is out of reach. -/
def isOutOfReach (digits : List Char) (exponent : Int) : Bool :=
  let significant := digits.dropWhile (· = '0')
  let top := Int.ofNat significant.length + exponent
  if significant.isEmpty || top < 300 then false
  else if 400 < top then true
  else
    let n := significant.foldl (fun n c => n * 10 + (c.toNat - '0'.toNat)) 0
    if 0 ≤ exponent then roundsToInfinity ≤ n * Nat.pow 10 exponent.toNat
    else roundsToInfinity * Nat.pow 10 (-exponent).toNat ≤ n

end StreamVerdict.Text
