import StreamVerdict.Text.Blank
import StreamVerdict.Unicode.CaseTable
import StreamVerdict.Unicode.CharacterClass
import StreamVerdict.Unicode.Property

/-!
# Sets of characters in a regular expression

A set is kept as it was built: ranges, named classes and properties, joined by the operations
that brackets allow. `CharSet.contains` reads it. Case is set aside by `folded`, whose members
are all characters that some member of the set stands for.
-/

namespace StreamVerdict.Regex

/-- The classes that have one-letter names. -/
inductive WideClass where
  | digit
  | blank
  | word
  deriving DecidableEq

/-- Members of a one-letter class. -/
def WideClass.contains : WideClass → Char → Bool
  | digit, c => Unicode.decimalDigit.contains c
  | blank, c => Text.isBlank c
  | word, c => Unicode.wordCharacter.contains c

/-- A set of characters. -/
inductive CharSet where
  | none
  | range (first last : Char)
  | wide (k : WideClass)
  | property (p : Unicode.Property)
  | union (a b : CharSet)
  | inter (a b : CharSet)
  | diff (a b : CharSet)
  | symmDiff (a b : CharSet)
  | compl (a : CharSet)
  | folded (a : CharSet)
  | foldedAscii (a : CharSet)
  deriving DecidableEq

namespace CharSet

/-- All characters that are equal to `c` when case does not count, `c` among them. -/
def caseOrbit (c : Char) : List Char :=
  let base := Unicode.CaseRun.mapCode Unicode.foldRuns c.toNat
  c :: Char.ofNat base :: (Unicode.foldRuns.filterMap (·.source? base)).map Char.ofNat

/-- The two cases of an ASCII letter, and every other character alone. -/
def asciiOrbit (c : Char) : List Char :=
  [c, c.toLower, c.toUpper]

/-- Membership. -/
def contains : CharSet → Char → Bool
  | none, _ => false
  | range first last, c => first ≤ c && c ≤ last
  | wide k, c => k.contains c
  | property p, c => p.holds c
  | union a b, c => a.contains c || b.contains c
  | inter a b, c => a.contains c && b.contains c
  | diff a b, c => a.contains c && !b.contains c
  | symmDiff a b, c => a.contains c != b.contains c
  | compl a, c => !a.contains c
  | folded a, c => (caseOrbit c).any fun d => a.contains d
  | foldedAscii a, c => (asciiOrbit c).any fun d => a.contains d

/-- The set of one character. -/
def single (c : Char) : CharSet :=
  range c c

/-- The union of a list of sets. -/
def unions (as : List CharSet) : CharSet :=
  as.foldr union none

/-- The set of the characters in any of a list of ranges. -/
def ranges (rs : List (Char × Char)) : CharSet :=
  unions (rs.map fun (a, b) => range a b)

/-- The characters other than those of a list. -/
def except (cs : List Char) : CharSet :=
  compl (unions (cs.map single))

/-- All characters. -/
def all : CharSet :=
  compl none

@[simp] theorem contains_single {c d : Char} : (single c).contains d = decide (d = c) := by
  simp only [single, contains, Bool.and_eq_decide, decide_eq_true_eq, decide_eq_decide]
  exact ⟨fun h => Char.le_antisymm h.2 h.1, fun h => h ▸ ⟨Char.le_refl _, Char.le_refl _⟩⟩

/-- About how many stretches of consecutive characters the set has. -/
def stretches : CharSet → Nat
  | none => 0
  | range _ _ => 1
  | wide .digit => Unicode.decimalDigit.size
  | wide .blank => 10
  | wide .word => Unicode.wordCharacter.size
  | property p => p.table.size
  | union a b | inter a b | diff a b | symmDiff a b => a.stretches + b.stretches
  | compl a => a.stretches + 8
  | folded a | foldedAscii a => 2 * a.stretches

end CharSet

/-- The ASCII classes that brackets name between colons. -/
def asciiClass? : String → Option CharSet
  | "alnum" => some (.ranges [('0', '9'), ('A', 'Z'), ('a', 'z')])
  | "alpha" => some (.ranges [('A', 'Z'), ('a', 'z')])
  | "ascii" => some (.ranges [('\x00', '\x7f')])
  | "blank" => some (.ranges [('\t', '\t'), (' ', ' ')])
  | "cntrl" => some (.ranges [('\x00', '\x1f'), ('\x7f', '\x7f')])
  | "digit" => some (.ranges [('0', '9')])
  | "graph" => some (.ranges [('!', '~')])
  | "lower" => some (.ranges [('a', 'z')])
  | "print" => some (.ranges [(' ', '~')])
  | "punct" => some (.ranges [('!', '/'), (':', '@'), ('[', '\x60'), ('\x7b', '~')])
  | "space" => some (.ranges [('\t', '\r'), (' ', ' ')])
  | "upper" => some (.ranges [('A', 'Z')])
  | "word" => some (.ranges [('0', '9'), ('A', 'Z'), ('_', '_'), ('a', 'z')])
  | "xdigit" => some (.ranges [('0', '9'), ('A', 'F'), ('a', 'f')])
  | _ => none

/-- The ASCII members of a one-letter class. -/
def WideClass.ascii : WideClass → CharSet
  | digit => .ranges [('0', '9')]
  | blank => .ranges [('\t', '\r'), (' ', ' ')]
  | word => .ranges [('0', '9'), ('A', 'Z'), ('_', '_'), ('a', 'z')]

end StreamVerdict.Regex
