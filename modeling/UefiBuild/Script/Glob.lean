import UefiBuild.Text.Split

namespace UefiBuild.Script

structure CharSet where
  runs : List (Char × Char) := []
  negated : Bool := false

namespace CharSet

def contains (set : CharSet) (c : Char) : Bool :=
  set.runs.any (fun (low, high) => low ≤ c && c ≤ high) != set.negated

def named? (name : String) : Option (List (Char × Char)) :=
  let lower := ('a', 'z')
  let upper := ('A', 'Z')
  let digit := ('0', '9')
  match name with
  | "alpha" => some [lower, upper]
  | "digit" => some [digit]
  | "alnum" => some [lower, upper, digit]
  | "lower" => some [lower]
  | "upper" => some [upper]
  | "space" => some [('\t', '\r'), (' ', ' ')]
  | "blank" => some [('\t', '\t'), (' ', ' ')]
  | "punct" => some [('!', '/'), (':', '@'), ('[', '\x60'), ('\x7b', '~')]
  | "xdigit" => some [digit, ('A', 'F'), ('a', 'f')]
  | "cntrl" => some [('\x00', '\x1f'), ('\x7f', '\x7f')]
  | "print" => some [(' ', '~')]
  | "graph" => some [('!', '~')]
  | _ => none

def readNamed? : List Char → Option (List (Char × Char) × List Char)
  | '[' :: ':' :: rest =>
    let name := rest.takeWhile (· ≠ ':')
    match rest.drop name.length with
    | ':' :: ']' :: after => (named? (String.ofList name)).map (·, after)
    | _ => none
  | _ => none

end CharSet

abbrev GlobChar : Type := Char × Bool

inductive GlobPart
  | char (c : Char)
  | any
  | many
  | oneOf (set : CharSet)

namespace Glob

def readRuns : Nat → Bool → List GlobChar → Option (List (Char × Char) × List GlobChar)
  | 0, _, _ | _, _, [] => none
  | room + 1, first, (c, plain) :: rest =>
    if c = ']' && !plain && !first then some ([], rest)
    else
      match CharSet.readNamed? (((c, plain) :: rest).map Prod.fst) with
      | some (runs, after) =>
        (readRuns room false (rest.drop (rest.length - after.length))).map fun (others, end_) =>
          (runs ++ others, end_)
      | none =>
        match rest with
        | ('-', false) :: (high, highPlain) :: rest =>
          if high = ']' && !highPlain then
            (readRuns room false (('-', true) :: (high, highPlain) :: rest)).map fun (others, end_) =>
              ((c, c) :: others, end_)
          else
            (readRuns room false rest).map fun (others, end_) => ((c, high) :: others, end_)
        | rest => (readRuns room false rest).map fun (others, end_) => ((c, c) :: others, end_)

def readBracket? (rest : List GlobChar) : Option (CharSet × List GlobChar) :=
  match rest with
  | ('!', false) :: after | ('^', false) :: after =>
    (readRuns (after.length + 1) true after).map fun (runs, end_) => ({ runs, negated := true }, end_)
  | rest => (readRuns (rest.length + 1) true rest).map fun (runs, end_) => ({ runs }, end_)

/-- A bracket that does not end stands for itself. -/
def parts : Nat → List GlobChar → List GlobPart
  | 0, _ | _, [] => []
  | room + 1, (c, plain) :: rest =>
    if plain then .char c :: parts room rest
    else
      match c with
      | '*' => .many :: parts room rest
      | '?' => .any :: parts room rest
      | '[' =>
        match readBracket? rest with
        | some (set, after) => .oneOf set :: parts room after
        | none => .char '[' :: parts room rest
      | '\\' =>
        match rest with
        | (c, _) :: rest => .char c :: parts room rest
        | [] => [.char '\\']
      | c => .char c :: parts room rest

def ofChars (cs : List GlobChar) : List GlobPart := parts (cs.length + 1) cs

def matchesAll : List GlobPart → List Char → Bool
  | [], cs => cs.isEmpty
  | .many :: parts, [] => matchesAll parts []
  | .many :: parts, c :: cs => matchesAll parts (c :: cs) || matchesAll (.many :: parts) cs
  | .char expected :: parts, c :: cs => c = expected && matchesAll parts cs
  | .any :: parts, _ :: cs => matchesAll parts cs
  | .oneOf set :: parts, c :: cs => set.contains c && matchesAll parts cs
  | _ :: _, [] => false
termination_by parts cs => (parts.length, cs.length)

def isPattern (cs : List GlobChar) : Bool :=
  cs.any fun (c, plain) => !plain && (c = '*' || c = '?' || c = '[')

def trim (atEnd longest : Bool) (pattern : List GlobChar) (text : List Char) : List Char :=
  let parts := ofChars pattern
  let lengths := List.range (text.length + 1)
  let lengths := if longest then lengths.reverse else lengths
  let found := lengths.find? fun n =>
    matchesAll parts (if atEnd then text.drop (text.length - n) else text.take n)
  match found with
  | none => text
  | some n => if atEnd then text.take (text.length - n) else text.drop n

end Glob

end UefiBuild.Script
