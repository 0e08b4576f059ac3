import StreamVerdict.Quota

/-!
# Miscounts

Something was seen too often or not often enough. A miscount says what it was, how often it was
expected and how often it was seen, so that a failed test can be understood from its log alone.
-/

namespace StreamVerdict

/-- What was expected of a count, and what it was. -/
structure Miscount where
  subject : String
  min : UInt64
  max : Option UInt64
  seen : Nat
  deriving DecidableEq

namespace Miscount

/-- The miscount of a quota. -/
def ofQuota (subject : String) (q : Quota) (seen : Nat) : Miscount :=
  ⟨subject, q.min, q.max, seen⟩

/-- The miscount in words. -/
def describe (m : Miscount) : String :=
  match m.max with
  | some max =>
    s!"condition '{m.subject}': expected between {m.min} and {max} matches but received {m.seen}"
  | none => s!"condition '{m.subject}': expected at least {m.min} matches but received {m.seen}"

end Miscount

/-! ## Texts are not empty -/

/-- A text that goes on is not empty if its beginning is not. -/
theorem Text.append_ne_empty {s : String} (h : s ≠ "") (t : String) : s ++ t ≠ "" := fun ht =>
  h (String.append_eq_empty_iff.mp ht).1

open Text in
theorem Miscount.describe_ne_empty (m : Miscount) : m.describe ≠ "" := by
  unfold describe
  split
  · exact append_ne_empty (append_ne_empty (append_ne_empty (append_ne_empty (append_ne_empty
      (append_ne_empty (append_ne_empty (by decide) _) _) _) _) _) _) _
  · exact append_ne_empty (append_ne_empty (append_ne_empty (append_ne_empty (append_ne_empty
      (by decide) _) _) _) _) _

end StreamVerdict
