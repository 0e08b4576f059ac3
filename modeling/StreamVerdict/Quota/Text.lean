import StreamVerdict.Error
import StreamVerdict.Text.Blank
import StreamVerdict.Text.Letter

/-!
# Quotas as text

A quota is written as a number `N`, a range `N-M`, a bound `>N` or `<N`, or one of the words
`optional` and `any`. Blanks around the text and around its numbers do not count, nor does the
case of the words. In a configuration a bare number stands for itself.
-/

namespace StreamVerdict

namespace Quota

/-- Between `min` and `max` times. -/
def range (min max : UInt64) : Except Error Quota :=
  if max < min then .error (.countRange min max.toNat) else .ok ⟨min, some max⟩

/-- Reads one number of the text of a quota. -/
def readBound (text : String) (part : List Char) : Except Error UInt64 :=
  let digits := Text.trimChars part
  match Text.readNatural Text.maxWord digits with
  | .ok n => .ok (UInt64.ofNat n)
  | .error fault => .error (.invalidCount text
      s!"'{String.ofList digits}' is not a non-negative integer: {fault.message}")

/-- Reads a quota. -/
def parse (text : String) : Except Error Quota :=
  let body := Text.trimChars text.toList
  if Text.sameAscii (String.ofList body) "optional" then .ok optional
  else if Text.sameAscii (String.ofList body) "any" then .ok any
  else match body with
    | '>' :: rest => do
      let n ← readBound text rest
      -- more than the bound, so at least the one after it
      if n.toNat = Text.maxWord then .error (.invalidCount text "lower bound overflows")
      else .ok (atLeast (n + 1))
    | '<' :: rest => do
      let n ← readBound text rest
      -- less than the bound, so at most the one before it
      if n = 0 then .error (.countRange 0 (-1)) else .ok ⟨0, some (n - 1)⟩
    | _ =>
      if '-' ∈ body then do
        let min ← readBound text (body.takeWhile (· ≠ '-'))
        let max ← readBound text ((body.dropWhile (· ≠ '-')).drop 1)
        range min max
      else do
        let n ← readBound text body
        .ok (exactly n)

/-- A quota as a configuration gives it. The text is read only when it is needed. -/
inductive Written where
  | number (n : UInt64)
  | text (s : String)
  deriving DecidableEq

/-- The quota that was written. -/
def Written.quota : Written → Except Error Quota
  | number n => .ok (exactly n)
  | text s => parse s

/-- The shortest way to write a quota: a bare number if its bounds are equal, else its text. -/
def written (q : Quota) : Written :=
  match q.max with
  | some m => if m = q.min then .number m else .text q.describe
  | none => .text q.describe

end Quota

end StreamVerdict
