import UefiBuild.Script.Tree
import UefiBuild.Text.Split

namespace UefiBuild.Script

structure Awaited where
  number : Nat
  mark : List Char
  dropsTabs : Bool
  fills : Bool

structure Source where
  rest : List Char
  line : Nat := 1
  awaited : List Awaited := []
  texts : Table Nat (List Char × Bool) := ∅
  nextText : Nat := 0

abbrev Reading (α : Type) : Type := ExceptT String (StateM Source) α

inductive Mode
  | word
  | quoted
  | given
  | braces
  | quotedBraces
  deriving DecidableEq

namespace Mode

def isQuoted : Mode → Bool
  | quoted | given | quotedBraces => true
  | word | braces => false

end Mode

def endsWord (c : Char) : Bool := c ∈ [' ', '\t', '\n', ';', '&', '|', '<', '>', '(', ')']

def Mode.stopsAt (mode : Mode) (c : Char) : Bool :=
  match mode with
  | word => endsWord c
  | quoted => c = '"'
  | given => false
  | braces | quotedBraces => c = '\x7d'

def specialParameters : List Char := ['@', '*', '#', '?', '-', '$', '!']

def reservedWords : List String :=
  ["!", "\x7b", "\x7d", "case", "do", "done", "elif", "else", "esac", "fi", "for", "if", "in", "then",
    "until", "while"]

def endWords : List String := ["\x7d", "do", "done", "elif", "else", "esac", "fi", "then"]

def addChar (pieces : Word) (c : Char) (quoted : Bool) : Word :=
  match pieces.getLast? with
  | some (.text s q) =>
    if q = quoted then pieces.dropLast ++ [.text (s.push c) q]
    else pieces ++ [.text (String.singleton c) quoted]
  | _ => pieces ++ [.text (String.singleton c) quoted]

def dropBlanks : Nat → List Char → Nat × List Char
  | line, ' ' :: rest | line, '\t' :: rest => dropBlanks line rest
  | line, '\\' :: '\n' :: rest => dropBlanks (line + 1) rest
  | line, '#' :: rest => (line, rest.dropWhile (· ≠ '\n'))
  | line, rest => (line, rest)

def takeText (awaited : Awaited) : Nat → Nat → List Char → List Char × Nat × List Char
  | 0, line, rest => ([], line, rest)
  | _, line, [] => ([], line, [])
  | room + 1, line, rest =>
    let written := rest.takeWhile (· ≠ '\n')
    let after := (rest.dropWhile (· ≠ '\n')).drop 1
    let written := if awaited.dropsTabs then written.dropWhile (· = '\t') else written
    if written = awaited.mark then ([], line + 1, after)
    else
      let (text, line, after) := takeText awaited room (line + 1) after
      (written ++ '\n' :: text, line, after)

namespace Reading

def rest : Reading (List Char) := return (← get).rest

def line : Reading Nat := return (← get).line

def advance (count : Nat) : Reading Unit :=
  modify fun source =>
    let read := source.rest.take count
    { source with rest := source.rest.drop count, line := source.line + read.count '\n' }

def skipUncounted (count : Nat) : Reading Unit :=
  modify fun source => { source with rest := source.rest.drop count }

def skipBlanks : Reading Unit :=
  modify fun source =>
    let (line, rest) := dropBlanks source.line source.rest
    { source with line, rest }

def endLine : Reading Unit := do
  advance 1
  modify fun source =>
    source.awaited.foldl (fun source awaited =>
      let (text, line, rest) := takeText awaited (source.rest.length + 1) source.line source.rest
      { source with line, rest, texts := source.texts.insert awaited.number (text, awaited.fills) })
      { source with awaited := [] }

def skipLines : Nat → Reading Unit
  | 0 => return ()
  | room + 1 => do
    skipBlanks
    if (← rest).head? = some '\n' then
      endLine
      skipLines room

def reserved? : Reading (Option String) := do
  let word := String.ofList ((← rest).takeWhile fun c => !endsWord c)
  return if word ∈ reservedWords then some word else none

def nextToken : Reading String := do
  match ← rest with
  | [] => return "end of file"
  | '\n' :: _ => return "newline"
  | '&' :: '&' :: _ => return "\"&&\""
  | '|' :: '|' :: _ => return "\"||\""
  | ';' :: ';' :: _ => return "\";;\""
  | c :: _ =>
    if c ∈ ['&', '|', ';', '(', ')'] then return "\"" ++ String.singleton c ++ "\""
    else if c ∈ ['<', '>'] then return "redirection"
    else
      match ← reserved? with
      | some word => return "\"" ++ word ++ "\""
      | none => return "word"

def unexpectedAs {α : Type} (found expected : String) : Reading α := do
  let hint := if expected = "" then "" else " (expecting \"" ++ expected ++ "\")"
  if (← rest).head? = some '\n' then advance 1
  throw (found ++ " unexpected" ++ hint)

def unexpected {α : Type} (expected : String) : Reading α := do
  unexpectedAs (← nextToken) expected

def atListEnd : Reading Bool := do
  match ← rest with
  | [] | ')' :: _ | ';' :: ';' :: _ => return true
  | _ => return (← reserved?).any (· ∈ endWords)

def expectWord (word : String) : Reading Unit := do
  if (← reserved?) = some word then advance word.length
  else unexpected word

/-- What a backslash does: the pieces with what it protects, and how many characters that takes. -/
def protect (mode : Mode) (pieces : Word) : List Char → Word × Nat
  | [] => (addChar pieces '\\' true, 1)
  | '\n' :: _ => (pieces, 2)
  | c :: _ =>
    let special : List Char :=
      match mode with
      | .word | .braces => [c]
      | .quoted => ['$', '\x60', '"', '\\']
      | .given => ['$', '\x60', '\\']
      | .quotedBraces => ['$', '\x60', '"', '\\', '\x7d']
    if c ∈ special then (addChar pieces c true, 2) else (addChar (addChar pieces '\\' true) c true, 2)

/-- The text between back quotes, without the backslashes that protect something there. -/
def backQuoted (quoted : Bool) : List Char → Option (List Char × Nat)
  | [] => none
  | '\x60' :: _ => some ([], 1)
  | '\\' :: c :: rest =>
    let protects := c ∈ ['$', '\x60', '\\'] || (quoted && c = '"')
    (backQuoted quoted rest).map fun (text, count) =>
      (if protects then c :: text else '\\' :: c :: text, count + 2)
  | c :: rest => (backQuoted quoted rest).map fun (text, count) => (c :: text, count + 1)

def parameterName : List Char → List Char
  | [] => []
  | c :: rest =>
    if isNameStart c then c :: rest.takeWhile isNamePart
    else if c.isDigit then c :: rest.takeWhile Char.isDigit
    else if c ∈ specialParameters then [c]
    else []

def redirection? (cs : List Char) : Option (Option Nat × String × Nat) :=
  let digits := cs.takeWhile Char.isDigit
  let after := cs.drop digits.length
  let operators := ["<<-", "<<", "<&", "<>", "<", ">>", ">&", ">|", ">"]
  (operators.find? fun name => (Text.dropStart? name.toList after).isSome).map fun name =>
    let number := digits.foldl (fun n c => 10 * n + (c.toNat - '0'.toNat)) 0
    (if digits = [] then none else some number, name, digits.length + name.length)

def plainText (pieces : Word) : String :=
  Text.join "" (pieces.map fun piece =>
    match piece with
    | .text s _ => s
    | .parameter name _ _ => "$" ++ name
    | _ => "")

def hasQuotes (pieces : Word) : Bool :=
  pieces.any fun piece =>
    match piece with
    | .quotes | .text _ true => true
    | _ => false

def await (fd : Nat) (mark : Word) (dropsTabs : Bool) : Reading Redirection := do
  let number := (← get).nextText
  let awaited : Awaited :=
    { number, mark := (plainText mark).toList, dropsTabs, fills := !hasQuotes mark }
  modify fun source => { source with nextText := number + 1, awaited := source.awaited ++ [awaited] }
  return .given fd number

end Reading

end UefiBuild.Script
