import StreamVerdict.Regex.Bracket

/-!
# Openings of groups

What stands between an opening parenthesis and the body of its group: a name, flags, or nothing.
Flags followed by a closing parenthesis are no group: they hold from there on.
-/

namespace StreamVerdict.Regex

/-- What an opening parenthesis begins. -/
inductive Opening where
  /-- A group, with the flags that hold inside it and its name if it has one. -/
  | group (flags : Flags) (name : Option String)
  /-- New flags for the rest of the group that is open. -/
  | flags (flags : Flags)
  deriving DecidableEq

/-- Whether a name may hold the character; a stricter rule holds for its first one. -/
def isNameChar (first : Bool) (c : Char) : Bool :=
  if first then c = '_' || Unicode.alphabetic.contains c
  else c = '_' || c = '.' || c = '[' || c = ']' || Unicode.alphabetic.contains c ||
    Unicode.numeric.contains c

/-- Reads the name of a group and the angle bracket that ends it. -/
def readGroupName (cs : List Char) : Except Fault (String × List Char) :=
  match cs.dropWhile (· ≠ '>') with
  | [] => .error .groupNameInvalid
  | _ :: rest =>
    match cs.takeWhile (· ≠ '>') with
    | [] => .error .groupNameMissing
    | c :: name =>
      if isNameChar true c && name.all (isNameChar false) then
        .ok (String.ofList (c :: name), rest)
      else .error .groupNameInvalid

/-- Reads flags up to the character that ends them, which is the first of the rest. `seen` holds
what was read so far; nothing may come twice, and the sign that turns flags off must not come
last. -/
def readFlags (seen : List Char) (on : Bool) (f : Flags) : List Char →
    Except Fault (Flags × List Char × List Char)
  | [] => .error .groupUnclosed
  | c :: cs =>
    if c = ':' || c = ')' then
      if seen.head? = some '-' then .error .flagsDangling else .ok (f, seen, c :: cs)
    else if c ∈ seen then .error (.flagRepeated c)
    else if c = '-' then readFlags (c :: seen) false f cs
    else match f.set? on c with
      | some f => readFlags (c :: seen) on f cs
      | none => .error (.flagUnknown c)

/-- Reads what follows an opening parenthesis. -/
def Flags.opening (f : Flags) (cs : List Char) : Except Fault (Opening × List Char) :=
  match f.skip cs with
  | '?' :: '=' :: _ | '?' :: '!' :: _ | '?' :: '<' :: '=' :: _ | '?' :: '<' :: '!' :: _ =>
    .error .lookAround
  -- what is left with an angle bracket is a name
  | '?' :: 'P' :: '<' :: rest | '?' :: '<' :: rest => do
    let (name, rest) ← readGroupName rest
    .ok (.group f (some name), rest)
  | '?' :: rest => do
    let (inner, seen, rest) ← readFlags [] true f rest
    -- a closing parenthesis sets flags for the rest of the group around
    match rest with
    | ')' :: rest =>
      if seen.isEmpty then .error .repetitionMissing else .ok (.flags inner, rest)
    | _ => .ok (.group inner none, rest.drop 1)
  | cs => .ok (.group f none, cs)

end StreamVerdict.Regex
