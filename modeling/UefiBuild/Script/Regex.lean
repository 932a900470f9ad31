import UefiBuild.Script.Glob

namespace UefiBuild.Script

inductive Regex
  | empty
  | any
  | oneOf (set : CharSet)
  | lineStart
  | lineEnd
  | border (starts ends : Bool)
  | noBorder
  | apart (before : Bool)
  | group (number : Nat) (inside : Regex)
  | again (number : Nat)
  | seq (first second : Regex)
  | alt (first second : Regex)
  | rep (inside : Regex) (least : Nat) (most? : Option Nat)

namespace Regex

def char (c : Char) : Regex := .oneOf { runs := [(c, c)] }

def size : Regex → Nat
  | group _ inside => inside.size + 1
  | seq first second | alt first second => first.size + second.size + 1
  | rep inside least most? => inside.size + least + most?.getD 0 + 1
  | _ => 1

structure Draft where
  rest : List Char
  extended : Bool
  groups : Nat := 0

abbrev Drafting (α : Type) : Type := ExceptT String (StateM Draft) α

def wordSet : CharSet := { runs := [('a', 'z'), ('A', 'Z'), ('0', '9'), ('_', '_')] }

def spaceSet : CharSet := { runs := [('\t', '\r'), (' ', ' ')] }

def badStart : String := "Invalid preceding regular expression"

def badBounds : String := "Invalid content of \\\x7b\\\x7d"

def advance (count : Nat) : Drafting Unit :=
  modify fun draft => { draft with rest := draft.rest.drop count }

def atOperator (name : Char) : Drafting Bool := do
  let draft ← get
  return if draft.extended then draft.rest.head? = some name
    else draft.rest.take 2 = ['\\', name]

def takeOperator (name : Char) : Drafting Bool := do
  if ← atOperator name then
    advance (if (← get).extended then 1 else 2)
    return true
  else return false

/-- The runs of a bracket. A closing bracket that comes first is one of the characters. -/
def readRuns : Nat → Bool → List Char → Except String (List (Char × Char) × List Char)
  | 0, _, _ | _, _, [] => .error "Unmatched [, [^, [:, [., or [="
  | room + 1, first, c :: rest =>
    if c = ']' && !first then .ok ([], rest)
    else
      match CharSet.readNamed? (c :: rest) with
      | some (runs, after) => do
        let (others, after) ← readRuns room false after
        return (runs ++ others, after)
      | none =>
        match c, rest with
        | '[', ':' :: _ => .error "Invalid character class name"
        | c, '-' :: high :: after =>
          if high = ']' then .ok ([(c, c), ('-', '-')], after)
          else if high < c then .error "Invalid range end"
          else do
            let (others, after) ← readRuns room false after
            return ((c, high) :: others, after)
        | c, rest => do
          let (others, after) ← readRuns room false rest
          return ((c, c) :: others, after)

def readSet : Drafting Regex := do
  let rest := (← get).rest
  let negated := rest.head? = some '^'
  let inside := if negated then rest.tail else rest
  let (runs, after) ← readRuns (inside.length + 1) true inside
  modify fun draft => { draft with rest := after }
  return .oneOf { runs, negated }

def readBounds : Drafting (Nat × Option Nat) := do
  let number : Drafting (Option Nat) := do
    let digits := (← get).rest.takeWhile Char.isDigit
    advance digits.length
    return if digits = [] then none
      else some (digits.foldl (fun n c => 10 * n + (c.toNat - '0'.toNat)) 0)
  let least? ← number
  let bounds : Nat × Option Nat ←
    if (← get).rest.head? = some ',' then
      advance 1
      pure (least?.getD 0, ← number)
    else
      match least? with
      | some n => pure (n, some n)
      | none => throw (if (← get).rest.isEmpty then "Unmatched \\\x7b" else badBounds)
  if ← takeOperator '\x7d' then
    if 32767 < max bounds.1 (bounds.2.getD 0) then throw "Regular expression too big"
    if bounds.2.any (· < bounds.1) then throw badBounds
    return bounds
  else throw (if (← get).rest.isEmpty then "Unmatched \\\x7b" else badBounds)

def endsHere (draft : Draft) : Bool :=
  draft.extended || draft.rest.isEmpty || draft.rest.take 2 = ['\\', ')'] ||
    draft.rest.take 2 = ['\\', '|']

mutual

def readAlt : Nat → Nat → Drafting Regex
  | 0, _ => throw "out of room"
  | room + 1, depth => do
    let first ← readSeq room depth true .empty
    if ← takeOperator '|' then return .alt first (← readAlt room depth)
    else return first

def readSeq : Nat → Nat → Bool → Regex → Drafting Regex
  | 0, _, _, _ => throw "out of room"
  | room + 1, depth, atFirst, done => do
    let draft ← get
    if draft.rest.isEmpty || (← atOperator '|') || (0 < depth && (← atOperator ')')) then return done
    else if draft.rest.head? = some '^' && (draft.extended || atFirst) then
      advance 1
      readSeq room depth true (.seq done .lineStart)
    else if draft.rest.head? = some '$' && endsHere { draft with rest := draft.rest.tail } then
      advance 1
      readSeq room depth false (.seq done .lineEnd)
    else
      let atom ←
        if atFirst && draft.rest.head? = some '*' && !draft.extended then do
          advance 1
          pure (char '*')
        else readAtom room depth
      let atom ← readRep room atom
      readSeq room depth false (.seq done atom)

def readAtom : Nat → Nat → Drafting Regex
  | 0, _ => throw "out of room"
  | room + 1, depth => do
    if ← takeOperator '(' then
      let number := (← get).groups + 1
      modify fun draft => { draft with groups := number }
      let inside ← readAlt room (depth + 1)
      if ← takeOperator ')' then return .group number inside
      else throw "Unmatched ( or \\("
    else if (← atOperator '\x7b') || (← atOperator '+') || (← atOperator '?') then throw badStart
    else
      match (← get).rest with
      | [] => throw badStart
      | '.' :: _ =>
        advance 1
        return .any
      | '[' :: _ =>
        advance 1
        readSet
      | '\\' :: c :: _ =>
        advance 2
        if '1' ≤ c && c ≤ '9' then
          let number := c.toNat - '0'.toNat
          if (← get).groups < number then throw "Invalid back reference"
          return .again number
        else
          match c with
          | 'n' => return char '\n'
          | 't' => return char '\t'
          | 'w' => return .oneOf wordSet
          | 'W' => return .oneOf { wordSet with negated := true }
          | 's' => return .oneOf spaceSet
          | 'S' => return .oneOf { spaceSet with negated := true }
          | 'b' => return .border true true
          | 'B' => return .noBorder
          | '<' => return .border true false
          | '>' => return .border false true
          | ')' => if (← get).extended then return char ')' else throw "Unmatched ) or \\)"
          | c => return char c
      | '\\' :: [] => throw "Trailing backslash"
      | c :: _ =>
        if (← get).extended && c = '*' then throw badStart
        if (← get).extended && c = ')' then throw "Unmatched ) or \\)"
        advance 1
        return char c

def readRep : Nat → Regex → Drafting Regex
  | 0, _ => throw "out of room"
  | room + 1, atom => do
    if (← get).rest.head? = some '*' then
      advance 1
      readRep room (.rep atom 0 none)
    else if ← takeOperator '+' then readRep room (.rep atom 1 none)
    else if ← takeOperator '?' then readRep room (.rep atom 0 (some 1))
    else if ← takeOperator '\x7b' then
      let (least, most?) ← readBounds
      readRep room (.rep atom least most?)
    else return atom

end

def read (extended : Bool) (pattern : String) : Except String (Regex × Nat) :=
  let cs := pattern.toList
  let (found, draft) := (readAlt (4 * cs.length + 8) 0).run { rest := cs, extended }
  found.map fun regex => (regex, draft.groups)

structure Fit where
  previous? : Option Char
  rest : List Char
  groups : List (Nat × List Char) := []

namespace Fit

def step (fit : Fit) : Fit := { fit with previous? := fit.rest.head?, rest := fit.rest.tail }

def between (start finish : Fit) : List Char :=
  start.rest.take (start.rest.length - finish.rest.length)

def walk : Nat → Fit → Fit
  | 0, fit => fit
  | count + 1, fit => walk count fit.step

end Fit

def setHolds (folds : Bool) (set : CharSet) (c : Char) : Bool :=
  if folds then set.contains c.toLower || set.contains c.toUpper else set.contains c

/-- The ways in which a pattern fits, those that take the earlier choices first. -/
def fits (folds : Bool) : Nat → Regex → Fit → List Fit
  | 0, _, _ => []
  | _ + 1, empty, fit => [fit]
  | _ + 1, any, fit => if fit.rest.isEmpty then [] else [fit.step]
  | _ + 1, oneOf set, fit =>
    match fit.rest with
    | [] => []
    | c :: _ => if setHolds folds set c then [fit.step] else []
  | _ + 1, lineStart, fit => if fit.previous?.isNone then [fit] else []
  | _ + 1, lineEnd, fit => if fit.rest.isEmpty then [fit] else []
  | _ + 1, border starts ends, fit =>
    let before := fit.previous?.any wordSet.contains
    let after := fit.rest.head?.any wordSet.contains
    if (starts && !before && after) || (ends && before && !after) then [fit] else []
  | _ + 1, noBorder, fit =>
    if fit.previous?.any wordSet.contains = fit.rest.head?.any wordSet.contains then [fit] else []
  | _ + 1, apart before, fit =>
    let beside? := if before then fit.previous? else fit.rest.head?
    if beside?.any wordSet.contains then [] else [fit]
  | room + 1, group number inside, fit =>
    (fits folds room inside fit).map fun after =>
      { after with groups := (number, fit.between after) :: after.groups.filter (·.1 ≠ number) }
  | _ + 1, again number, fit =>
    match fit.groups.lookup number with
    | none => []
    | some found =>
      if (Text.dropStart? found fit.rest).isSome then [fit.walk found.length] else []
  | room + 1, seq first second, fit => (fits folds room first fit).flatMap (fits folds room second)
  | room + 1, alt first second, fit => fits folds room first fit ++ fits folds room second fit
  | room + 1, rep inside least most?, fit =>
    if most? = some 0 then [fit]
    else
      let next : Regex := .rep inside (least - 1) (most?.map (· - 1))
      let once := fits folds room inside fit
      if 0 < least then once.flatMap (fits folds room next)
      else
        (once.filter fun after => after.rest.length < fit.rest.length).flatMap (fits folds room next) ++
          [fit]

def longest : List Fit → Option Fit
  | [] => none
  | fit :: others =>
    some (others.foldl (fun best next =>
      if next.rest.length < best.rest.length then next else best) fit)

structure Match where
  before : List Char
  found : List Char
  after : List Char
  groups : List (Nat × List Char)

/-- The longest of the matches that start first. -/
def findFrom (pattern : Regex) (folds : Bool) : Nat → List Char → Fit → Option Match
  | 0, _, _ => none
  | room + 1, passed, fit =>
    match longest (fits folds ((pattern.size + 2) * (fit.rest.length + 2)) pattern fit) with
    | some finish =>
      some { before := passed.reverse, found := fit.between finish, after := finish.rest,
             groups := finish.groups }
    | none =>
      match fit.rest with
      | [] => none
      | c :: _ => findFrom pattern folds room (c :: passed) fit.step

def find? (pattern : Regex) (folds : Bool) (previous? : Option Char) (text : List Char) :
    Option Match :=
  findFrom pattern folds (text.length + 1) [] { previous?, rest := text }

def occursIn (pattern : Regex) (folds : Bool) (text : List Char) : Bool :=
  (pattern.find? folds none text).isSome

/-- Writes something else for the matches in a text, from the one with the given number on, and only
for that one unless all are meant. An empty match does not count where the match before it ended. -/
def replaceFrom (pattern : Regex) (folds : Bool) (write : Match → List Char) (everywhere : Bool) :
    Nat → Nat → Bool → Option Char → List Char → List Char × Bool
  | 0, _, _, _, text => (text, false)
  | room + 1, number, afterMatch, previous?, text =>
    match pattern.find? folds previous? text with
    | none => (text, false)
    | some found =>
      let counts := !(afterMatch && found.before.isEmpty && found.found.isEmpty)
      let due := counts && number ≤ 1
      let written := found.before ++ (if due then write found else found.found)
      if due && !everywhere then (written ++ found.after, true)
      else
        let number := if counts then number - 1 else number
        if found.found.isEmpty then
          match found.after with
          | [] => (written, due)
          | c :: rest =>
            let (others, more) :=
              replaceFrom pattern folds write everywhere room number false (some c) rest
            (written ++ c :: others, due || more)
        else
          let (others, more) := replaceFrom pattern folds write everywhere room number true
            (found.found.getLast?.or previous?) found.after
          (written ++ others, due || more)

def replace (pattern : Regex) (folds : Bool) (write : Match → List Char) (everywhere : Bool)
    (number : Nat) (text : List Char) : List Char × Bool :=
  replaceFrom pattern folds write everywhere (2 * text.length + 4) number false none text

end Regex

end UefiBuild.Script
