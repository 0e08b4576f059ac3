import StreamVerdict.Text.Quoted

/-!
# Quoted text in TOML

Texts stand in double quotes, with escapes, or in single quotes, without. Three quotes of a kind
enclose texts of several lines.

Readers take the characters that lie ahead and return those that they have not used.
-/

namespace StreamVerdict.Toml

/-- Blanks inside a line. -/
def isSpace (c : Char) : Bool :=
  c = ' ' || c = '\t'

/-- Drops blanks inside a line. -/
def skipSpace (cs : List Char) : List Char :=
  cs.dropWhile isSpace

/-- Drops one end of a line. -/
def newline? : List Char → Option (List Char)
  | '\n' :: cs => some cs
  | '\r' :: '\n' :: cs => some cs
  | _ => none

/-- Whether comments and quotes may hold the character as it is: all but controls may stand there,
and of these the tab. -/
def isQuotable (c : Char) : Bool :=
  c = '\t' || (0x20 ≤ c.toNat && c ≠ '\x7f')

/-- Reads as many hexadecimal digits as `n` and returns their value. -/
def readHex : (n value : Nat) → List Char → Option (Nat × List Char)
  | 0, value, cs => some (value, cs)
  | _ + 1, _, [] => none
  | n + 1, value, c :: cs =>
    if '0' ≤ c && c ≤ '9' then readHex n (value * 16 + (c.toNat - '0'.toNat)) cs
    else if 'a' ≤ c && c ≤ 'f' then readHex n (value * 16 + (c.toNat - 'a'.toNat + 10)) cs
    else if 'A' ≤ c && c ≤ 'F' then readHex n (value * 16 + (c.toNat - 'A'.toNat + 10)) cs
    else none

/-- The character of a code point that was read. -/
def codeChar? (code : Nat × List Char) : Option (Char × List Char) :=
  if h : code.1.isValidChar then some (Char.ofNatAux code.1 h, code.2) else none

/-- Reads an escape after its backslash. -/
def readEscape : List Char → Option (Char × List Char)
  | 'b' :: cs => some ('\x08', cs)
  | 't' :: cs => some ('\t', cs)
  | 'n' :: cs => some ('\n', cs)
  | 'f' :: cs => some ('\x0c', cs)
  | 'r' :: cs => some ('\r', cs)
  | '"' :: cs => some ('"', cs)
  | '\\' :: cs => some ('\\', cs)
  | 'u' :: cs => (readHex 4 0 cs).bind codeChar?
  | 'U' :: cs => (readHex 8 0 cs).bind codeChar?
  | _ => none

/-- Reads a text of one line in double quotes, after the first of them. -/
def readBasic : (fuel : Nat) → List Char → Option (List Char × List Char)
  | 0, _ => none
  | _ + 1, [] => none
  | _ + 1, '"' :: cs => some ([], cs)
  | fuel + 1, '\\' :: cs => do
    let (c, cs) ← readEscape cs
    let (s, cs) ← readBasic fuel cs
    some (c :: s, cs)
  | fuel + 1, c :: cs =>
    if isQuotable c then do
      let (s, cs) ← readBasic fuel cs
      some (c :: s, cs)
    else none

/-- Reads a text of one line in single quotes, after the first of them. -/
def readLiteral : List Char → Option (List Char × List Char)
  | [] => none
  | '\'' :: cs => some ([], cs)
  | c :: cs =>
    if isQuotable c then do
      let (s, cs) ← readLiteral cs
      some (c :: s, cs)
    else none

/-- What a run of quotes inside a text of several lines means, together with the characters after
it: three of them end the text, up to two more before these belong to it. -/
def quoteRun (quote : Char) (cs : List Char) : Option (List Char × List Char) :=
  let run := (cs.takeWhile (· = quote)).length
  if run < 3 then none
  else
    let inside := min (run - 3) 2
    some (List.replicate inside quote, cs.drop (inside + 3))

/-- Drops the blanks and line ends after a backslash that ends a line. -/
def skipContinuation : List Char → List Char
  | [] => []
  | c :: cs =>
    if isSpace c || c = '\n' then skipContinuation cs
    else if c = '\r' && cs.head? = some '\n' then skipContinuation cs
    else c :: cs

/-- Reads a text of several lines in double quotes, after the first three of them. -/
def readBlock : (fuel : Nat) → List Char → Option (List Char × List Char)
  | 0, _ => none
  | _ + 1, [] => none
  | fuel + 1, '"' :: cs =>
    match quoteRun '"' ('"' :: cs) with
    | some ended => some ended
    | none => do
      let (s, cs) ← readBlock fuel cs
      some ('"' :: s, cs)
  | fuel + 1, '\\' :: cs =>
    -- a backslash at the end of a line joins the next one to it
    match newline? (skipSpace cs) with
    | some rest => readBlock fuel (skipContinuation rest)
    | none => do
      let (c, cs) ← readEscape cs
      let (s, cs) ← readBlock fuel cs
      some (c :: s, cs)
  | fuel + 1, c :: cs =>
    match newline? (c :: cs) with
    | some rest => do
      let (s, cs) ← readBlock fuel rest
      some ('\n' :: s, cs)
    | none =>
      if isQuotable c then do
        let (s, cs) ← readBlock fuel cs
        some (c :: s, cs)
      else none

/-- Reads a text of several lines in single quotes, after the first three of them. -/
def readLiteralBlock : (fuel : Nat) → List Char → Option (List Char × List Char)
  | 0, _ => none
  | _ + 1, [] => none
  | fuel + 1, '\'' :: cs =>
    match quoteRun '\'' ('\'' :: cs) with
    | some ended => some ended
    | none => do
      let (s, cs) ← readLiteralBlock fuel cs
      some ('\'' :: s, cs)
  | fuel + 1, c :: cs =>
    match newline? (c :: cs) with
    | some rest => do
      let (s, cs) ← readLiteralBlock fuel rest
      some ('\n' :: s, cs)
    | none =>
      if isQuotable c then do
        let (s, cs) ← readLiteralBlock fuel cs
        some (c :: s, cs)
      else none

/-- Drops one line end right after the quotes that open a text of several lines. -/
def skipFirstNewline (cs : List Char) : List Char :=
  (newline? cs).getD cs

/-- Reads a quoted text of any kind, with its quotes. -/
def readQuoted (cs : List Char) : Option (String × List Char) :=
  let fuel := cs.length
  let read := match cs with
    | '"' :: '"' :: '"' :: cs => readBlock fuel (skipFirstNewline cs)
    | '\'' :: '\'' :: '\'' :: cs => readLiteralBlock fuel (skipFirstNewline cs)
    | '"' :: cs => readBasic fuel cs
    | '\'' :: cs => readLiteral cs
    | _ => none
  read.map fun (s, rest) => (String.ofList s, rest)

/-- Whether a key may hold the character without quotes. -/
def isBare (c : Char) : Bool :=
  c.isAlphanum || c = '_' || c = '-'

/-- Reads one part of a key. -/
def readKeyPart (cs : List Char) : Option (String × List Char) :=
  match cs with
  | '"' :: rest => (readBasic cs.length rest).map fun (s, rest) => (String.ofList s, rest)
  | '\'' :: rest => (readLiteral rest).map fun (s, rest) => (String.ofList s, rest)
  | cs =>
    match cs.takeWhile isBare with
    | [] => none
    | part => some (String.ofList part, cs.dropWhile isBare)

/-- Reads a key: parts with dots between them, and blanks around each part. -/
def readKey : (fuel : Nat) → List Char → Option (List String × List Char)
  | 0, _ => none
  | fuel + 1, cs => do
    let (part, cs) ← readKeyPart (skipSpace cs)
    match skipSpace cs with
    | '.' :: cs => do
      let (parts, cs) ← readKey fuel cs
      some (part :: parts, cs)
    | cs => some ([part], cs)

end StreamVerdict.Toml
