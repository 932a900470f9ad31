import UefiBuild.Script.Tool.Lines

namespace UefiBuild.Script.Tool

def plainPattern (text : String) : Regex :=
  text.toList.foldr (fun c rest => .seq (Regex.char c) rest) .empty

def searchPattern (given : Given) (pattern : String) : Except String Regex := do
  let found ←
    if given.has 'F' then pure (plainPattern pattern)
    else Prod.fst <$> Regex.read (given.has 'E') pattern
  if given.has 'x' then return .seq .lineStart (.seq found .lineEnd)
  else if given.has 'w' then return .seq (.apart true) (.seq found (.apart false))
  else return found

def allMatches (pattern : Regex) (folds : Bool) : Nat → Nat → Option Char → List Char →
    List (Nat × String)
  | 0, _, _, _ => []
  | room + 1, place, previous?, text =>
    match pattern.find? folds previous? text with
    | none => []
    | some found =>
      let start := place + found.before.length
      if found.found.isEmpty then
        match found.after with
        | [] => []
        | c :: rest => allMatches pattern folds room (start + 1) (some c) rest
      else
        (start, String.ofList found.found) ::
          allMatches pattern folds room (start + found.found.length) found.found.getLast? found.after

def searchText (given : Given) (pattern : Regex) (heading text : String) : List String × Nat :=
  let folds := given.has 'i'
  let lines := (linesIn text).zipIdx
  let found := lines.filter fun (line, _) => pattern.occursIn folds line.toList != given.has 'v'
  let found := ((given.value? 'm').bind number?).elim found fun most => found.take most
  let before (number : Nat) (mark : String) : String :=
    heading ++ (if heading = "" then "" else mark) ++
      (if given.has 'n' then toString (number + 1) ++ mark else "")
  let after := ((given.value? 'A').or (given.value? 'C')).bind number? |>.getD 0
  let ahead := ((given.value? 'B').or (given.value? 'C')).bind number? |>.getD 0
  if given.has 'o' then
    (if given.has 'v' then []
      else found.flatMap fun (line, number) =>
        (allMatches pattern folds (line.length + 1) 0 none line.toList).map fun (_, piece) =>
          before number ":" ++ piece, found.length)
  else if after + ahead = 0 then
    (found.map fun (line, number) => before number ":" ++ line, found.length)
  else
    let shown := lines.filter fun (_, number) =>
      found.any fun (_, other) => other ≤ number + ahead && number ≤ other + after
    let written := shown.map fun (line, number) =>
      let hit := found.any fun (_, other) => other = number
      (before number (if hit then ":" else "-") ++ line, number)
    let rec divide : Option Nat → List (String × Nat) → List String
      | _, [] => []
      | last?, (line, number) :: rest =>
        let others := line :: divide (some number) rest
        if last?.any (· + 1 < number) then "--" :: others else others
    (divide none written, found.length)

def grep : Tool := fun title arguments => do
  let form : OptionForm :=
    { plain := ['v', 'q', 'i', 'y', 'c', 'n', 'E', 'F', 'G', 'o', 'x', 'w', 's', 'l', 'L', 'h', 'H', 'a',
        'b', 'r', 'R', 'z', 'U']
      valued := ['e', 'f', 'm', 'A', 'B', 'C']
      long := [("invert-match", 'v'), ("quiet", 'q'), ("silent", 'q'), ("ignore-case", 'i'),
        ("count", 'c'), ("line-number", 'n'), ("extended-regexp", 'E'), ("fixed-strings", 'F'),
        ("only-matching", 'o'), ("line-regexp", 'x'), ("word-regexp", 'w'), ("no-messages", 's'),
        ("files-with-matches", 'l'), ("no-filename", 'h'), ("with-filename", 'H'), ("regexp", 'e'),
        ("text", 'a'), ("max-count", 'm'), ("file", 'f')] }
  let usage : Act Unit := do
    Act.emit 2 s!"Usage: {title} [OPTION]... PATTERNS [FILE]...\n"
    Act.emit 2 s!"Try '{title} --help' for more information.\n"
    Act.setStatus 2
  Act.setStatus 0
  match form.read arguments with
  | .error what =>
    Act.report title what 2
    usage
  | .ok given =>
    let given := if given.has 'y' then { given with flags := ('i', "") :: given.flags } else given
    let (written?, names) :=
      match given.values 'e', given.operands with
      | [], pattern :: names => (some [pattern], names)
      | [], [] => (none, [])
      | patterns, names => (some patterns, names)
    match written? with
    | none => usage
    | some written =>
      match (written.flatMap (Text.split '\n')).mapM (searchPattern given) with
      | .error what => Act.report title what 2
      | .ok patterns =>
        let pattern := patterns.tail.foldl Regex.alt (patterns.headD .empty)
        let names := if names.isEmpty then ["-"] else names
        let headed := (1 < names.length || given.has 'H') && !given.has 'h'
        let mut hit := false
        for name in names do
          match ← Tool.input name with
          | .error error =>
            if given.has 's' then Act.setStatus 2
            else Act.report title (Tool.plainComplaint name error) 2
          | .ok text =>
            let shown := if name = "-" then "(standard input)" else name
            let heading := if headed then shown else ""
            let (lines, count) := searchText given pattern heading text
            if 0 < count then hit := true
            if given.has 'q' then pure ()
            else if given.has 'l' then
              if 0 < count then Act.emit 1 (shown ++ "\n")
            else if given.has 'L' then
              if count = 0 then Act.emit 1 (shown ++ "\n")
            else if given.has 'c' then
              Act.emit 1 ((if headed then heading ++ ":" else "") ++ toString count ++ "\n")
            else Act.emit 1 (ofLines lines)
        if hit && given.has 'q' then Act.setStatus 0
        else if (← get).status = 0 && !hit then Act.setStatus 1

end UefiBuild.Script.Tool
