/-!
# Faults of regular expressions

Why a text is not a regular expression.
-/

namespace StreamVerdict.Regex

/-- The ways in which the text of a regular expression can be wrong. -/
inductive Fault where
  | groupUnclosed
  | groupUnopened
  | groupNameMissing
  | groupNameInvalid
  | groupNameRepeated (name : String)
  | lookAround
  | flagUnknown (c : Char)
  | flagRepeated (c : Char)
  | flagsDangling
  | repetitionMissing
  | repetitionUnclosed
  | repetitionReversed
  | countMissing
  | countTooLarge
  | escapeUnfinished
  | escapeUnknown (c : Char)
  | backreference
  | hexMissing
  | hexInvalid
  | propertyUnknown (name : String)
  | wordEdgeUnclosed
  | wordEdgeUnknown (name : String)
  | bracketUnclosed
  | bracketItem
  | rangeEndpoint
  | rangeReversed (first last : Char)
  | unicodeDisabled
  | partOfCharacter
  | tooDeep (limit : Nat)
  | tooLarge (limit : Nat)
  deriving DecidableEq

/-- The words for a fault. They name its kind. The lines that a full report has besides, with the
expression, a mark at the place of the fault and the names and characters in question, are left
out. -/
def Fault.message : Fault → String
  | groupUnclosed => "unclosed group"
  | groupUnopened => "unopened group"
  | groupNameMissing => "empty capture group name"
  | groupNameInvalid => "invalid capture group character"
  | groupNameRepeated _ => "duplicate capture group name"
  | lookAround => "look-around, including look-ahead and look-behind, is not supported"
  | flagUnknown _ => "unrecognized flag"
  | flagRepeated _ => "duplicate flag"
  | flagsDangling => "dangling flag negation operator"
  | repetitionMissing => "repetition operator missing expression"
  | repetitionUnclosed => "unclosed counted repetition"
  | repetitionReversed =>
    "invalid repetition count range, the start must be <= the end"
  | countMissing => "repetition quantifier expects a valid decimal"
  | countTooLarge => "decimal literal invalid"
  | escapeUnfinished => "incomplete escape sequence, reached end of pattern prematurely"
  | escapeUnknown _ => "unrecognized escape sequence"
  | backreference => "backreferences are not supported"
  | hexMissing => "hexadecimal literal empty"
  | hexInvalid => "hexadecimal literal is not a Unicode scalar value"
  | propertyUnknown _ => "Unicode property not found"
  | wordEdgeUnclosed => "special word boundary assertion is either unclosed or contains an " ++
      "invalid character"
  | wordEdgeUnknown _ => "unrecognized special word boundary assertion"
  | bracketUnclosed => "unclosed character class"
  | bracketItem => "invalid escape sequence found in character class"
  | rangeEndpoint => "invalid range boundary, must be a literal"
  | rangeReversed _ _ => "invalid character class range, the start must be <= the end"
  | unicodeDisabled => "Unicode not allowed here"
  | partOfCharacter => "pattern can match invalid UTF-8"
  | tooDeep limit => s!"exceed the maximum number of nested parentheses/brackets ({limit})"
  | tooLarge limit => s!"Compiled regex exceeds size limit of {limit} bytes."

end StreamVerdict.Regex
