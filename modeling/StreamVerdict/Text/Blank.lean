/-!
# Blanks

What counts as white space in texts that people write, and the removal of it at both ends.
-/

namespace StreamVerdict.Text

/-- The white space characters of the character set: the ASCII blanks and line controls, the next
line control, the no-break space, and the spaces and separators of other scripts. -/
def isBlank (c : Char) : Bool :=
  let n := c.toNat
  (9 ≤ n && n ≤ 13) || n = 0x20 || n = 0x85 || n = 0xA0 || n = 0x1680 ||
    (0x2000 ≤ n && n ≤ 0x200A) || n = 0x2028 || n = 0x2029 || n = 0x202F || n = 0x205F ||
    n = 0x3000

/-- A list of characters without the blanks at its ends. -/
def trimChars (cs : List Char) : List Char :=
  ((cs.dropWhile isBlank).reverse.dropWhile isBlank).reverse

end StreamVerdict.Text
