import UefiBuild.Script.Tool.Lines

namespace UefiBuild.Script.Tool

structure SortKey where
  field : Nat
  char : Nat
  lastField? : Option Nat
  lastChar : Nat
  letters : List Char

def sortFields (separator? : Option Char) (line : List Char) : List (List Char) :=
  match separator? with
  | some separator => Text.pieces (· == separator) line
  | none =>
    let isBlank (c : Char) : Bool := c = ' ' || c = '\t'
    let rec go : Nat → List Char → List (List Char)
      | 0, _ | _, [] => []
      | room + 1, cs =>
        let blanks := cs.takeWhile isBlank
        let word := (cs.drop blanks.length).takeWhile fun c => !isBlank c
        (blanks ++ word) :: go room (cs.drop (blanks.length + word.length))
    go (line.length + 1) line

def readKey? (key : String) : Option SortKey := do
  let readPart (cs : List Char) : Option (Nat × Nat × List Char) := do
    let digits := cs.takeWhile Char.isDigit
    let field ← number? (String.ofList digits)
    match cs.drop digits.length with
    | '.' :: rest =>
      let chars := rest.takeWhile Char.isDigit
      return (field, ← number? (String.ofList chars), rest.drop chars.length)
    | rest => return (field, 0, rest)
  let (first, second?) :=
    match Text.cutAtFirst? ',' key with
    | some (first, second) => (first, some second)
    | none => (key, none)
  let (field, char, letters) ← readPart first.toList
  match second? with
  | none => return { field, char, lastField? := none, lastChar := 0, letters }
  | some second =>
    let (last, lastChar, more) ← readPart second.toList
    return { field, char, lastField? := some last, lastChar, letters := letters ++ more }

def keyText (separator? : Option Char) (key : SortKey) (line : List Char) : List Char :=
  let fields := sortFields separator? line
  let width := if separator?.isSome then 1 else 0
  let startOf (n : Nat) : Nat := ((fields.take n).map fun f => f.length + width).foldl (· + ·) 0
  let skip (n : Nat) : Nat :=
    if key.letters.contains 'b' then ((fields.getD n []).takeWhile fun c => c = ' ' || c = '\t').length
    else 0
  let start := startOf (key.field - 1) + skip (key.field - 1) + (key.char - 1)
  let finish :=
    match key.lastField? with
    | none => line.length
    | some last =>
      if key.lastChar = 0 then startOf (last - 1) + (fields.getD (last - 1) []).length
      else startOf (last - 1) + skip (last - 1) + key.lastChar
  (line.take finish).drop start

def numericValue (cs : List Char) : Int :=
  let cs := cs.dropWhile fun c => c = ' ' || c = '\t'
  let (negative, cs) :=
    match cs with
    | '-' :: rest => (true, rest)
    | cs => (false, cs)
  let whole := cs.takeWhile Char.isDigit
  let part :=
    match cs.drop whole.length with
    | '.' :: rest => rest.takeWhile Char.isDigit
    | _ => []
  let scaled := Sum.ofDigits 10 (whole ++ (part ++ List.replicate 20 '0').take 20)
  if negative then -scaled else scaled

def compareKeys (letters : List Char) (a b : List Char) : Ordering :=
  let order :=
    if letters.any (· ∈ ['n', 'g', 'h']) then compare (numericValue a) (numericValue b)
    else
      let strip (cs : List Char) : List Char :=
        let cs := if letters.contains 'b' then cs.dropWhile fun c => c = ' ' || c = '\t' else cs
        let cs := if letters.contains 'd' then
          cs.filter fun c => c.isAlphanum || c = ' ' || c = '\t' else cs
        if letters.contains 'f' then cs.map Char.toUpper else cs
      compare (String.ofList (strip a)) (String.ofList (strip b))
  if letters.contains 'r' then order.swap else order

def compareLines (given : Given) (keys : List SortKey) (a b : String) : Ordering :=
  let separator? := ((given.value? 't').getD "").toList.head?
  let globals := (given.flags.map Prod.fst).filter (· ∈ ['n', 'g', 'h', 'r', 'f', 'b', 'd'])
  let byKeys :=
    if keys.isEmpty then compareKeys globals a.toList b.toList
    else keys.foldl (fun order key =>
      let key := if key.letters.isEmpty then { key with letters := globals } else key
      order.then (compareKeys key.letters (keyText separator? key a.toList)
        (keyText separator? key b.toList))) .eq
  if given.has 'u' || given.has 's' then byKeys
  else byKeys.then (if given.has 'r' then compare b a else compare a b)

def sort : Tool :=
  Tool.withOptions
    { plain := ['r', 'n', 'u', 'f', 'b', 's', 'c', 'C', 'd', 'g', 'h', 'i', 'm', 'z', 'V', 'M']
      valued := ['k', 't', 'o', 'S', 'T']
      long := [("reverse", 'r'), ("numeric-sort", 'n'), ("unique", 'u'), ("ignore-case", 'f'),
        ("key", 'k'), ("field-separator", 't'), ("output", 'o'), ("stable", 's'), ("check", 'c'),
        ("ignore-leading-blanks", 'b')] } 2 fun title given => do
    let complaint (name : String) (error : FileError) : String :=
      if error = .isFolder then s!"read failed: {name}: {reason error}"
      else s!"cannot read: {name}: {reason error}"
    let texts ← Tool.inputs title complaint 2 given.operands
    if (← get).status = 0 then
      let keys := (given.values 'k').map readKey?
      if keys.any (·.all fun key => key.field = 0) then
        let shown := (given.values 'k').headD ""
        Act.report title s!"field number is zero: invalid field specification '{shown}'" 2
      else
        let keys := keys.filterMap id
        let lines := texts.flatMap fun row => linesIn row.2
        let inOrder (a b : String) : Bool := compareLines given keys a b != .gt
        if given.has 'c' || given.has 'C' then
          let pairs := (lines.zip lines.tail).zipIdx
          let fault? := pairs.find? fun ((a, b), _) =>
            !inOrder a b || (given.has 'u' && compareLines given keys a b == .eq)
          match fault? with
          | none => pure ()
          | some ((_, line), place) =>
            Act.setStatus 1
            if given.has 'c' then
              let name := (texts.map Prod.fst).headD "-"
              let number := place + 2
              Act.emit 2 s!"{title}: {name}:{number}: disorder: {line}\n"
        else
          let sorted := lines.mergeSort inOrder
          let sorted :=
            if given.has 'u' then
              sorted.foldr (fun line kept =>
                match kept with
                | next :: others =>
                  if compareLines given keys line next == .eq then line :: others else line :: kept
                | [] => [line]) []
            else sorted
          match given.value? 'o' with
          | none => Act.emit 1 (ofLines sorted)
          | some name =>
            match (← get).writeFile name (ofLines sorted) with
            | .ok machine => set machine
            | .error error => Act.report title s!"open failed: {name}: {reason error}" 2

def runsOf (same : String → String → Bool) : List String → List (Nat × List String)
  | [] => []
  | line :: rest =>
    match runsOf same rest with
    | (count, next :: others) :: more =>
      if same line next then (count + 1, line :: next :: others) :: more
      else (1, [line]) :: (count, next :: others) :: more
    | more => (1, [line]) :: more

def uniq : Tool :=
  Tool.withOptions
    { plain := ['c', 'd', 'u', 'i', 'D'], valued := ['f', 's', 'w']
      long := [("count", 'c'), ("repeated", 'd'), ("unique", 'u'), ("ignore-case", 'i'),
        ("skip-fields", 'f'), ("skip-chars", 's'), ("check-chars", 'w')] } 1 fun title given => do
    let number (letter : Char) : Option Nat := (given.value? letter).bind number?
    let seen (line : String) : List Char :=
      let rec dropFields : Nat → List Char → List Char
        | 0, cs => cs
        | n + 1, cs =>
          let cs := cs.dropWhile fun c => c = ' ' || c = '\t'
          dropFields n (cs.dropWhile fun c => c ≠ ' ' && c ≠ '\t')
      let cs := (dropFields ((number 'f').getD 0) line.toList).drop ((number 's').getD 0)
      let cs := (number 'w').elim cs fun n => cs.take n
      if given.has 'i' then cs.map Char.toUpper else cs
    let complaint (name : String) (error : FileError) : String :=
      if error = .isFolder then s!"error reading '{name}'" else Tool.plainComplaint name error
    for (_, text) in ← Tool.inputs title complaint 1 (given.operands.take 1) do
      let runs := runsOf (fun a b => seen a = seen b) (linesIn text)
      let runs := runs.filter fun (count, _) =>
        (!given.has 'd' || 1 < count) && (!given.has 'u' || count = 1)
      let lines := runs.map fun (count, lines) =>
        let line := lines.headD ""
        if given.has 'c' then
          let digits := toString count
          String.ofList (List.replicate (7 - digits.length) ' ') ++ digits ++ " " ++ line
        else line
      match given.operands with
      | _ :: target :: _ =>
        match (← get).writeFile target (ofLines lines) with
        | .ok machine => set machine
        | .error error => Act.report title (Tool.plainComplaint target error) 1
      | _ => Act.emit 1 (ofLines lines)

end UefiBuild.Script.Tool
