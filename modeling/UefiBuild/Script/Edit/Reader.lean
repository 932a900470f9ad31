import UefiBuild.Script.Edit.Basic

namespace UefiBuild.Script.Edit

def fault {α : Type} (rest : List Char) (what : String) : Except EditFault α :=
  .error ⟨rest.length, what⟩

def isBlank (c : Char) : Bool := c = ' ' || c = '\t'

def bracket? (cs : List Char) : Option (List Char × List Char) :=
  let start : List Char :=
    match cs with
    | '^' :: ']' :: _ => ['^', ']']
    | '^' :: _ => ['^']
    | ']' :: _ => [']']
    | _ => []
  let rec go : Nat → List Char → Option (List Char × List Char)
    | 0, _ | _, [] => none
    | _, ']' :: rest => some ([']'], rest)
    | room + 1, '[' :: ':' :: rest =>
      let name := rest.takeWhile (· ≠ ':')
      (go room (rest.drop name.length)).map fun (inside, after) => ('[' :: ':' :: name ++ inside, after)
    | room + 1, ':' :: ']' :: rest =>
      (go room rest).map fun (inside, after) => (':' :: ']' :: inside, after)
    | room + 1, c :: rest => (go room rest).map fun (inside, after) => (c :: inside, after)
  (go (cs.length + 1) (cs.drop start.length)).map fun (inside, after) => (start ++ inside, after)

/-- Reads up to the mark. A backslash before the mark goes, and in a pattern the mark can stand in a
bracket. -/
def readTo (mark : Char) (isPattern overLines : Bool) : Nat → List Char →
    Option (List Char × List Char)
  | 0, _ | _, [] => none
  | room + 1, '\\' :: c :: rest =>
    (readTo mark isPattern overLines room rest).map fun (text, after) =>
      (if c = mark then c :: text else '\\' :: c :: text, after)
  | room + 1, c :: rest =>
    if c = mark then some ([], rest)
    else if c = '\n' && !overLines then none
    else if c = '[' && isPattern then do
      let (inside, rest) ← bracket? rest
      let (text, after) ← readTo mark isPattern overLines room rest
      return ('[' :: inside ++ text, after)
    else (readTo mark isPattern overLines room rest).map fun (text, after) => (c :: text, after)

def readNumber (cs : List Char) : Nat × List Char :=
  let digits := cs.takeWhile Char.isDigit
  (digits.foldl (fun n c => 10 * n + (c.toNat - '0'.toNat)) 0, cs.drop digits.length)

def readPattern (extended : Bool) (cs rest : List Char) :
    Except EditFault (Option (Regex × Nat) × List Char) :=
  if cs = [] then .ok (none, rest)
  else
    match Regex.read extended (String.ofList cs) with
    | .ok pattern => .ok (some pattern, rest)
    | .error what => fault rest what

def readAddress (extended : Bool) (cs : List Char) :
    Except EditFault (Option Address × List Char) := do
  let pattern (mark : Char) (rest : List Char) : Except EditFault (Option Address × List Char) :=
    match readTo mark true false (rest.length + 1) rest with
    | none => fault [] "unterminated address regex"
    | some (text, after) => do
      let (found?, after) ← readPattern extended text after
      let found? := found?.map Prod.fst
      match after with
      | 'I' :: after => return (some (.fits found? true), after)
      | after => return (some (.fits found? false), after)
  match cs with
  | '$' :: rest => return (some .last, rest)
  | '/' :: rest => pattern '/' rest
  | '\\' :: mark :: rest => pattern mark rest
  | c :: _ =>
    if c.isDigit then
      let (n, rest) := readNumber cs
      match rest with
      | '~' :: rest =>
        let (step, rest) := readNumber rest
        return (some (.every n step), rest)
      | rest => return (some (.line n), rest)
    else return (none, cs)
  | [] => return (none, [])

def substitutes : List Char → List Substitute
  | [] => []
  | '&' :: rest => .group 0 :: substitutes rest
  | '\\' :: c :: rest =>
    if c.isDigit then .group (c.toNat - '0'.toNat) :: substitutes rest
    else if c ∈ ['U', 'L', 'u', 'l', 'E'] then .casing c :: substitutes rest
    else if c = 'n' then .char '\n' :: substitutes rest
    else if c = 't' then .char '\t' :: substitutes rest
    else .char c :: substitutes rest
  | c :: rest => .char c :: substitutes rest

def readFlags (change : Substitution) : Nat → List Char →
    Except EditFault (Substitution × List Char)
  | 0, rest => .ok (change, rest)
  | room + 1, rest =>
    match rest with
    | 'g' :: after =>
      if change.everywhere then fault after "multiple `g' options to `s' command"
      else readFlags { change with everywhere := true } room after
    | 'p' :: after =>
      if change.prints then fault after "multiple `p' options to `s' command"
      else readFlags { change with prints := true } room after
    | 'i' :: after | 'I' :: after => readFlags { change with folds := true } room after
    | c :: after =>
      if c.isDigit then
        let (n, after) := readNumber rest
        if n = 0 then fault after "number option to `s' command may not be zero"
        else readFlags { change with number := n } room after
      else if c ∈ ['\n', ';', '\x7d', '#'] then .ok (change, rest)
      else if isBlank c then readFlags change room after
      else fault after "unknown option to `s'"
    | [] => .ok (change, [])

def readSubstitution (extended : Bool) (cs : List Char) :
    Except EditFault (EditAction × List Char) :=
  let broken : Except EditFault (EditAction × List Char) := fault [] "unterminated `s' command"
  match cs with
  | [] => broken
  | mark :: rest =>
    match readTo mark true true (rest.length + 1) rest with
    | none => broken
    | some (pattern, rest) =>
      match readTo mark false true (rest.length + 1) rest with
      | none => broken
      | some (written, rest) => do
        let parts := substitutes written
        let (change, rest) ← readFlags { pattern? := none, parts } (rest.length + 1) rest
        let passed :=
          match rest with
          | ';' :: after | '\n' :: after => after
          | rest => rest
        let (pattern?, _) ← readPattern extended pattern passed
        match pattern?, parts.filterMap Substitute.groupNumber? |>.max? with
        | some (_, groups), some number =>
          if groups < number then
            fault passed s!"invalid reference \\{number} on `s' command's RHS"
        | _, _ => pure ()
        return (.substitute { change with pattern? := pattern?.map Prod.fst }, rest)

/-- The text of a step that writes lines. It can start on the next line, after a backslash. -/
def readLines (cs : List Char) : List Char × List Char :=
  let cs := cs.dropWhile isBlank
  let cs :=
    match cs with
    | '\\' :: rest =>
      match rest.dropWhile isBlank with
      | '\n' :: after => after
      | after => after
    | cs => cs
  let rec take : List Char → List Char × List Char
    | [] => ([], [])
    | '\n' :: rest => ([], rest)
    | '\\' :: c :: rest =>
      let (text, after) := take rest
      (c :: text, after)
    | c :: rest =>
      let (text, after) := take rest
      (c :: text, after)
  take cs

def plainChars : List Char → List Char
  | [] => []
  | '\\' :: 'n' :: rest => '\n' :: plainChars rest
  | '\\' :: '\\' :: rest => '\\' :: plainChars rest
  | c :: rest => c :: plainChars rest

def readTranslation (cs : List Char) : Except EditFault (EditAction × List Char) :=
  match cs with
  | [] => fault [] "unterminated `y' command"
  | mark :: rest =>
    match readTo mark false false (rest.length + 1) rest with
    | none => fault [] "unterminated `y' command"
    | some (old, rest) =>
      match readTo mark false false (rest.length + 1) rest with
      | none => fault [] "unterminated `y' command"
      | some (new, rest) =>
        let old := plainChars old
        let new := plainChars new
        if old.length = new.length then .ok (.translate (old.zip new), rest)
        else fault rest "strings for `y' command are different lengths"

def readAction (extended : Bool) (cs : List Char) : Except EditFault (EditAction × List Char) :=
  let name (rest : List Char) : String × List Char :=
    let rest := rest.dropWhile isBlank
    let taken := rest.takeWhile fun c => c ≠ ';' && c ≠ '\n' && c ≠ '\x7d'
    (String.ofList (taken.reverse.dropWhile isBlank).reverse, rest.drop taken.length)
  let text (make : List Char → EditAction) (rest : List Char) :
      Except EditFault (EditAction × List Char) :=
    if (rest.dropWhile isBlank).isEmpty then fault rest "expected \\ after `a', `c' or `i'"
    else
      let (text, rest) := readLines rest
      .ok (make text, rest)
  match cs with
  | [] => fault [] "missing command"
  | 's' :: rest => readSubstitution extended rest
  | 'y' :: rest => readTranslation rest
  | '\x7b' :: rest => .ok (.opens, rest)
  | '\x7d' :: rest => .ok (.closes, rest)
  | 'a' :: rest => text .after rest
  | 'i' :: rest => text .before rest
  | 'c' :: rest => text .change rest
  | ':' :: rest =>
    let (found, rest) := name rest
    .ok (.label found, rest)
  | 'b' :: rest =>
    let (found, rest) := name rest
    .ok (.branch none found, rest)
  | 't' :: rest =>
    let (found, rest) := name rest
    .ok (.branch (some true) found, rest)
  | 'T' :: rest =>
    let (found, rest) := name rest
    .ok (.branch (some false) found, rest)
  | 'q' :: rest =>
    let (status, rest) := readNumber (rest.dropWhile isBlank)
    .ok (.quit status true, rest)
  | 'Q' :: rest =>
    let (status, rest) := readNumber (rest.dropWhile isBlank)
    .ok (.quit status false, rest)
  | c :: rest =>
    let plain? : Option EditAction :=
      match c with
      | 'd' => some .delete
      | 'D' => some .deleteFirst
      | 'p' => some .print
      | 'P' => some .printFirst
      | '=' => some .showNumber
      | 'n' => some .next
      | 'N' => some .appendNext
      | 'h' => some .holdSpace
      | 'H' => some .holdMore
      | 'g' => some .getHeld
      | 'G' => some .getMore
      | 'x' => some .exchange
      | _ => none
    match plain? with
    | some action => .ok (action, rest)
    | none => fault rest ("unknown command: `" ++ String.singleton c ++ "'")

def atStepEnd (action : EditAction) (rest : List Char) : Bool :=
  match action with
  | .opens | .closes | .after _ | .before _ | .change _ => true
  | _ => rest.head?.all (· ∈ [';', '\n', '\x7d', '#'])

def readSteps (extended : Bool) : Nat → Nat → List Char → Except EditFault (List EditStep)
  | 0, _, _ => .ok []
  | room + 1, depth, cs => do
    let cs := cs.dropWhile fun c => isBlank c || c = ';' || c = '\n'
    match cs with
    | [] => return []
    | '#' :: rest => readSteps extended room depth (rest.dropWhile (· ≠ '\n'))
    | cs =>
      let (first?, rest) ← readAddress extended cs
      let rest := rest.dropWhile isBlank
      let (second?, rest) ←
        match first?, rest with
        | some _, ',' :: rest =>
          match rest.dropWhile isBlank with
          | '+' :: rest =>
            let (count, rest) := readNumber rest
            pure (some (Address.later count), rest)
          | rest =>
            match readAddress extended rest with
            | .ok (some found, rest) => pure (some found, rest)
            | .ok (none, rest) => .error ⟨rest.length - 1, "unexpected `,'"⟩
            | .error what => .error what
        | _, rest => pure (none, rest)
      match first?, second? with
      | some (.line 0), some (.fits _ _) => pure ()
      | some (.line 0), _ => throw ⟨rest.length - 1, "invalid usage of line address 0"⟩
      | _, _ => pure ()
      let rest := rest.dropWhile isBlank
      let negated := rest.head? = some '!'
      let rest := if negated then rest.tail.dropWhile isBlank else rest
      let (action, rest) ← readAction extended rest
      if action matches .closes && depth = 0 then throw ⟨rest.length, "unexpected `\x7d'"⟩
      let depth :=
        match action with
        | .opens => depth + 1
        | .closes => depth - 1
        | _ => depth
      let rest := rest.dropWhile isBlank
      if !atStepEnd action rest then throw ⟨rest.length - 1, "extra characters after command"⟩
      return { first?, second?, negated, action } :: (← readSteps extended room depth rest)

structure EditSource where
  text : List Char
  file? : Option String := none

def place : Nat → Nat → List EditSource → String
  | _, _, [] => ""
  | number, passed, source :: rest =>
    if source.text.length < passed && !rest.isEmpty then
      place (number + 1) (passed - source.text.length - 1) rest
    else
      match source.file? with
      | some file =>
        let line := (source.text.take passed).count '\n' + 1
        s!"file {file} line {line}: "
      | none => s!"-e expression #{number}, char {passed}: "

def missingLabel? (steps : List EditStep) : Option String :=
  let labels := steps.filterMap fun step =>
    match step.action with
    | .label name => some name
    | _ => none
  steps.findSome? fun step =>
    match step.action with
    | .branch _ name => if name = "" || labels.contains name then none else some name
    | _ => none

def blockDepth (steps : List EditStep) : Int :=
  steps.foldl (fun depth step =>
    match step.action with
    | .opens => depth + 1
    | .closes => depth - 1
    | _ => depth) 0

def read (extended : Bool) (sources : List EditSource) : Except String (List EditStep) := do
  let text := ['\n'].intercalate (sources.map EditSource.text)
  match readSteps extended (text.length + 1) 0 text with
  | .error wrong => .error (place 1 (text.length - wrong.left) sources ++ wrong.what)
  | .ok steps =>
    if blockDepth steps ≠ 0 then .error (place 1 0 sources ++ "unmatched `\x7b'")
    else
      match missingLabel? steps with
      | some name => .error s!"can't find label for jump to `{name}'"
      | none => .ok steps

end UefiBuild.Script.Edit
