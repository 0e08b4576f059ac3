import StreamVerdict.Toml.Scalar
import StreamVerdict.Toml.Table

/-!
# Reading TOML

A document is a list of lines: comments, headers of tables, and keys with values. `read` gives
the tree of its root table.
-/

namespace StreamVerdict.Toml

/-- Values nest to less than this depth, and keys have fewer parts. -/
def nestingLimit : Nat := 80

/-- Drops a comment, if one lies ahead. A comment must not hold controls. -/
def skipComment : List Char → List Char
  | '#' :: cs => cs.dropWhile isQuotable
  | cs => cs

/-- Drops blanks, line ends and comments between the items of a list. -/
def skipLines : (fuel : Nat) → List Char → List Char
  | 0, cs => cs
  | fuel + 1, cs =>
    let cs := skipSpace cs
    match cs with
    | '#' :: _ =>
      match newline? (skipComment cs) with
      | some rest => skipLines fuel rest
      | none => cs
    | _ =>
      match newline? cs with
      | some rest => skipLines fuel rest
      | none => cs

/-- Drops the end of a line: blanks, a comment, and a line end or the end of the text. -/
def lineEnd (cs : List Char) : Option (List Char) :=
  match skipComment (skipSpace cs) with
  | [] => some []
  | cs => newline? cs

/-- Reads a key that is not too long. -/
def readPath (cs : List Char) : Option (List String × List Char) := do
  let (key, rest) ← readKey (cs.length + 1) cs
  if key.length < nestingLimit then some (key, rest) else none

mutual

/-- Reads a value inside `depth` others. -/
def readValue (depth : Nat) : (fuel : Nat) → List Char → Option (Tree × List Char)
  | 0, _ => none
  | fuel + 1, cs =>
    match cs with
    | '"' :: _ | '\'' :: _ => (readQuoted cs).map fun (s, rest) => (.text s, rest)
    | '[' :: cs =>
      if nestingLimit ≤ depth + 1 then none
      else (readItems (depth + 1) fuel cs).map fun (items, rest) => (.list items, rest)
    | '\x7b' :: cs =>
      if nestingLimit ≤ depth + 1 then none
      else
        match skipSpace cs with
        | '\x7d' :: rest => some (.record [], rest)
        | _ =>
          (readMembers (depth + 1) fuel (.table false false []) cs).map fun (n, rest) =>
            (n.toTree, rest)
    | 't' :: 'r' :: 'u' :: 'e' :: rest => some (.bool true, rest)
    | 'f' :: 'a' :: 'l' :: 's' :: 'e' :: rest => some (.bool false, rest)
    | cs => readScalar cs

/-- Reads the items of a list up to its closing bracket. The last one may have a comma after it. -/
def readItems (depth : Nat) : (fuel : Nat) → List Char → Option (List Tree × List Char)
  | 0, _ => none
  | fuel + 1, cs =>
    match skipLines fuel cs with
    | ']' :: rest => some ([], rest)
    | cs => do
      let (item, cs) ← readValue depth fuel cs
      match skipLines fuel cs with
      | ',' :: cs => do
        let (items, cs) ← readItems depth fuel cs
        some (item :: items, cs)
      | ']' :: cs => some ([item], cs)
      | _ => none

/-- Reads the members of a table in braces. It stands on one line, and no comma comes last. -/
def readMembers (depth : Nat) : (fuel : Nat) → Node → List Char → Option (Node × List Char)
  | 0, _, _ => none
  | fuel + 1, n, cs => do
    let (key, cs) ← readPath cs
    match cs with
    | '=' :: cs => do
      let (value, cs) ← readValue depth fuel (skipSpace cs)
      let n ← n.addValue key value
      match skipSpace cs with
      | ',' :: cs => readMembers depth fuel n cs
      | '\x7d' :: cs => some (n, cs)
      | _ => none
    | _ => none

end

/-- Reads the lines of a document. `header` is the path of the table that keys add to. -/
def readLines : (fuel : Nat) → (header : List String) → Node → List Char → Option Node
  | 0, _, _, _ => none
  -- a header is the table that the lines up to the next one are added under
  | fuel + 1, header, root, cs =>
    match skipSpace cs with
    | [] => some root
    | '#' :: cs => do
      let rest ← lineEnd ('#' :: cs)
      readLines fuel header root rest
    | '[' :: '[' :: cs => do
      let (path, cs) ← readPath cs
      match cs with
      | ']' :: ']' :: cs => do
        let root ← root.openItem path
        let rest ← lineEnd cs
        readLines fuel path root rest
      | _ => none
    | '[' :: cs => do
      let (path, cs) ← readPath cs
      match cs with
      | ']' :: cs => do
        let root ← root.openTable path
        let rest ← lineEnd cs
        readLines fuel path root rest
      | _ => none
    | c :: cs =>
      match newline? (c :: cs) with
      | some rest => readLines fuel header root rest
      | none => do
        let (key, cs) ← readPath (c :: cs)
        match cs with
        | '=' :: cs => do
          let (value, cs) ← readValue 0 (2 * cs.length + 2) (skipSpace cs)
          let root ← root.addUnder header key value
          let rest ← lineEnd cs
          readLines fuel header root rest
        | _ => none

/-- Reads a document. A byte order mark in front of it does not count. -/
def read (s : String) : Option Tree :=
  let cs := match s.toList with
    | '\ufeff' :: cs => cs
    | cs => cs
  (readLines (cs.length + 1) [] (.table false false []) cs).map Node.toTree

end StreamVerdict.Toml
