import UefiBuild.Script.Source

namespace UefiBuild.Script

namespace Reading

mutual

def pieces : Nat → Mode → Word → Reading Word
  | 0, _, _ => throw "out of room"
  | room + 1, mode, done => do
    match ← rest with
    | [] =>
      match mode with
      | .quoted | .quotedBraces => throw "Unterminated quoted string"
      | .braces => throw "Missing '\x7d'"
      | .word | .given => return done
    | c :: after =>
      if mode.stopsAt c then return done
      else if c = '\\' then
        let (done, count) := protect mode done after
        advance count
        pieces room mode done
      else if c = '\x27' && (mode = .word || mode = .braces) then
        let inside := after.takeWhile (· ≠ '\x27')
        advance (inside.length + 2)
        if after.length = inside.length then throw "Unterminated quoted string"
        pieces room mode (done ++ [.quotes, .text (String.ofList inside) true])
      else if c = '"' && mode ≠ .given then
        advance 1
        let inside ← pieces room .quoted []
        advance 1
        let lone : Bool :=
          match inside with
          | [.parameter "@" .value _] => true
          | _ => false
        pieces room mode (done ++ (if lone then inside else .quotes :: inside))
      else if c = '$' then
        advance 1
        let found ← dollar room mode.isQuoted
        pieces room mode (done ++ found)
      else if c = '\x60' then
        advance 1
        let found ← backQuotes room mode.isQuoted
        pieces room mode (done ++ [found])
      else
        advance 1
        pieces room mode (addChar done c mode.isQuoted)

def dollar : Nat → Bool → Reading Word
  | 0, _ => throw "out of room"
  | room + 1, quoted => do
    match ← rest with
    | '(' :: '(' :: _ =>
      advance 2
      return [.sum (← sum room 0 []) quoted]
    | '(' :: _ =>
      advance 1
      let body ← list room true
      if (← rest).head? = some ')' then
        advance 1
        return [.output body quoted]
      else unexpected ")"
    | '\x7b' :: _ =>
      advance 1
      return [← braces room quoted]
    | cs =>
      let name := parameterName cs
      let name := if name.head?.any Char.isDigit then name.take 1 else name
      if name = [] then return [.text "$" quoted]
      else
        advance name.length
        return [.parameter (String.ofList name) .value quoted]

def braces : Nat → Bool → Reading Piece
  | 0, _ => throw "out of room"
  | room + 1, quoted => do
    let cs ← rest
    let counted := parameterName (cs.drop 1)
    if cs.head? = some '#' && counted ≠ [] && (cs.drop (counted.length + 1)).head? = some '\x7d' then
      advance (counted.length + 2)
      return .parameter (String.ofList counted) .length quoted
    else
      let name := parameterName cs
      advance name.length
      let named (change : Use) : Reading Piece := do
        if (← rest).head? ≠ some '\x7d' then
          throw (if quoted then "Unterminated quoted string" else "Missing '\x7d'")
        advance 1
        return .parameter (String.ofList name) change quoted
      let word (count : Nat) (mode : Mode) : Reading Word := do
        advance count
        pieces room mode []
      let inner : Mode := if quoted then .quotedBraces else .braces
      let bad (count : Nat) : Reading Piece := do
        skipUncounted count
        discard (word 0 inner)
        named .bad
      let fallback? (c : Char) : Option Fallback :=
        match c with
        | '-' => some .default
        | '=' => some .assign
        | '?' => some .giveUp
        | '+' => some .instead
        | _ => none
      if name = [] then bad (if cs.head? = some '\x7d' then 0 else 1)
      else
        match ← rest with
        | '\x7d' :: _ => named .value
        | '%' :: '%' :: _ => named (.trim true true (← word 2 .braces))
        | '%' :: _ => named (.trim true false (← word 1 .braces))
        | '#' :: '#' :: _ => named (.trim false true (← word 2 .braces))
        | '#' :: _ => named (.trim false false (← word 1 .braces))
        | ':' :: c :: _ =>
          match fallback? c with
          | some kind => named (.fallback kind true (← word 2 inner))
          | none => bad (if c = '\x7d' then 1 else 2)
        | c :: _ =>
          match fallback? c with
          | some kind => named (.fallback kind false (← word 1 inner))
          | none => bad 1
        | [] => named .value

def sum : Nat → Nat → Word → Reading Word
  | 0, _, _ => throw "out of room"
  | room + 1, depth, done => do
    match ← rest with
    | [] => throw "Missing '))'"
    | ')' :: after =>
      if depth = 0 && after.head? = some ')' then
        advance 2
        return done
      else
        advance 1
        sum room (depth - 1) (addChar done ')' true)
    | '(' :: _ =>
      advance 1
      sum room (depth + 1) (addChar done '(' true)
    | '$' :: _ =>
      advance 1
      let found ← dollar room true
      sum room depth (done ++ found)
    | '\x60' :: _ =>
      advance 1
      let found ← backQuotes room true
      sum room depth (done ++ [found])
    | '\\' :: '\n' :: _ =>
      advance 2
      sum room depth done
    | '"' :: _ =>
      advance 1
      sum room depth done
    | c :: _ =>
      advance 1
      sum room depth (addChar done c true)

def backQuotes : Nat → Bool → Reading Piece
  | 0, _ => throw "out of room"
  | room + 1, quoted => do
    match backQuoted quoted (← rest) with
    | none =>
      advance (← rest).length
      throw "EOF in backquote substitution"
    | some (text, count) =>
      let outside ← get
      set { outside with rest := text, line := 1 }
      let body ← list room true
      if !(← rest).isEmpty then discard (unexpected (α := Unit) "")
      modify fun inside => { inside with rest := outside.rest, line := outside.line }
      advance count
      return .output body quoted

def list : Nat → Bool → Reading Command
  | 0, _ => throw "out of room"
  | room + 1, mayBeEmpty => do
    skipLines ((← rest).length + 1)
    if (← rest).isEmpty then return .sequence []
    else if ← atListEnd then
      if mayBeEmpty then return .sequence [] else unexpected ""
    else
      let first ← andOr room
      skipBlanks
      let more (count : Nat) (first : Command) : Reading Command := do
        advance count
        match ← list room true with
        | .sequence others => return .sequence (first :: others)
        | other => return .sequence [first, other]
      match ← rest with
      | ';' :: ';' :: _ => return .sequence [first]
      | ';' :: _ => more 1 first
      | '&' :: _ => more 1 (.background first)
      | '\n' :: _ => more 0 first
      | _ =>
        if ← atListEnd then return .sequence [first] else unexpected ""

def andOr : Nat → Reading Command
  | 0 => throw "out of room"
  | room + 1 => do
    let first ← pipeline room
    andOrRest room first

def andOrRest : Nat → Command → Reading Command
  | 0, _ => throw "out of room"
  | room + 1, first => do
    skipBlanks
    match ← rest with
    | '&' :: '&' :: _ =>
      advance 2
      skipLines ((← rest).length + 1)
      let second ← pipeline room
      andOrRest room (.both first second)
    | '|' :: '|' :: _ =>
      advance 2
      skipLines ((← rest).length + 1)
      let second ← pipeline room
      andOrRest room (.either first second)
    | _ => return first

def pipeline : Nat → Reading Command
  | 0 => throw "out of room"
  | room + 1 => do
    skipBlanks
    if (← reserved?) = some "!" then
      advance 1
      let first ← command room
      return .negate (← stages room [first])
    else
      let first ← command room
      stages room [first]

def stages : Nat → List Command → Reading Command
  | 0, _ => throw "out of room"
  | room + 1, done => do
    skipBlanks
    let finished : Reading Command :=
      match done with
      | [only] => return only
      | done => return .pipe done
    match ← rest with
    | '|' :: '|' :: _ => finished
    | '|' :: _ =>
      advance 1
      skipLines ((← rest).length + 1)
      let next ← command room
      stages room (done ++ [next])
    | _ => finished

def command : Nat → Reading Command
  | 0 => throw "out of room"
  | room + 1 => do
    skipBlanks
    let start ← line
    let compound (body : Command) : Reading Command := do
      match ← redirections room [] with
      | [] => return body
      | found => return .redirected start body found
    match ← reserved? with
    | some "if" =>
      advance 2
      let body ← branch room
      compound body
    | some "while" =>
      advance 5
      let body ← loop room false
      compound body
    | some "until" =>
      advance 5
      let body ← loop room true
      compound body
    | some "for" =>
      advance 3
      let body ← forEach room start
      compound body
    | some "case" =>
      advance 4
      skipBlanks
      let word ← pieces room .word []
      if word.isEmpty then unexpected ""
      skipLines ((← rest).length + 1)
      expectWord "in"
      let cases ← choices room
      compound (.choose start word cases)
    | some "\x7b" =>
      advance 1
      let body ← list room false
      expectWord "\x7d"
      compound body
    | some _ => unexpected ""
    | none =>
      if (← rest).head? = some '(' then
        advance 1
        let body ← list room false
        if (← rest).head? ≠ some ')' then unexpected ")"
        advance 1
        compound (.subshell body)
      else simple room start [] [] []

def branch : Nat → Reading Command
  | 0 => throw "out of room"
  | room + 1 => do
    let condition ← list room false
    expectWord "then"
    let yes ← list room false
    match ← reserved? with
    | some "elif" =>
      advance 4
      return .branch condition yes (← branch room)
    | some "else" =>
      advance 4
      let no ← list room false
      expectWord "fi"
      return .branch condition yes no
    | _ =>
      expectWord "fi"
      return .branch condition yes (.sequence [])

def loop : Nat → Bool → Reading Command
  | 0, _ => throw "out of room"
  | room + 1, stopsOnSuccess => do
    let condition ← list room false
    expectWord "do"
    let body ← list room false
    expectWord "done"
    return .loop stopsOnSuccess condition body

def forEach : Nat → Nat → Reading Command
  | 0, _ => throw "out of room"
  | room + 1, start => do
    skipBlanks
    let name := (← rest).takeWhile fun c => !endsWord c
    if !isName name then
      if name.isEmpty then advance 1
      throw "Bad for loop variable"
    advance name.length
    skipLines ((← rest).length + 1)
    let words? ← do
      if (← reserved?) = some "in" then
        advance 2
        some <$> words room []
      else pure none
    skipBlanks
    if (← rest).head? = some ';' then advance 1
    skipLines ((← rest).length + 1)
    expectWord "do"
    let body ← list room false
    expectWord "done"
    return .forEach start (String.ofList name) words? body

def words : Nat → List Word → Reading (List Word)
  | 0, _ => throw "out of room"
  | room + 1, done => do
    skipBlanks
    match ← pieces room .word [] with
    | [] => return done
    | word => words room (done ++ [word])

def choices : Nat → Reading (List (List Word × Command))
  | 0 => throw "out of room"
  | room + 1 => do
    skipLines ((← rest).length + 1)
    if (← reserved?) = some "esac" then
      advance 4
      return []
    else
      if (← rest).head? = some '(' then advance 1
      let patterns ← patterns room
      let body ← list room true
      match ← rest with
      | ';' :: ';' :: _ =>
        advance 2
        let others ← choices room
        return (patterns, body) :: others
      | _ =>
        if (← reserved?) = some "esac" then
          advance 4
          return [(patterns, body)]
        else unexpected ";;"

def patterns : Nat → Reading (List Word)
  | 0 => throw "out of room"
  | room + 1 => do
    skipBlanks
    let pattern ← pieces room .word []
    if pattern.isEmpty then unexpected (if (← rest).isEmpty then ")" else "")
    skipBlanks
    match ← rest with
    | '|' :: _ =>
      advance 1
      return pattern :: (← patterns room)
    | ')' :: _ =>
      advance 1
      return [pattern]
    | _ => unexpected ")"

def redirections : Nat → List Redirection → Reading (List Redirection)
  | 0, _ => throw "out of room"
  | room + 1, done => do
    skipBlanks
    match redirection? (← rest) with
    | none => return done
    | some (number?, operator, count) =>
      advance count
      skipBlanks
      let target ← pieces room .word []
      if target.isEmpty then unexpected ""
      let fd := number?.getD (if Text.startsWith "<" operator then 0 else 1)
      let found ←
        if Text.startsWith "<<" operator then await fd target (operator = "<<-")
        else pure (.file fd operator target)
      redirections room (done ++ [found])

def simple : Nat → Nat → List (String × Word) → List Word → List Redirection → Reading Command
  | 0, _, _, _, _ => throw "out of room"
  | room + 1, start, assignments, words, found => do
    skipBlanks
    let found ← redirections room found
    let cs ← rest
    let name := cs.takeWhile isNamePart
    if words.isEmpty && isName name && (cs.drop name.length).head? = some '=' then
      advance (name.length + 1)
      let value ← pieces room .word []
      simple room start (assignments ++ [(String.ofList name, value)]) words found
    else if cs.head? = some '(' && words.length = 1 && assignments.isEmpty && found.isEmpty then
      advance 1
      skipBlanks
      if (← rest).head? ≠ some ')' then
        let found ← nextToken
        unexpectedAs (if (← reserved?).isSome then "word" else found) ")"
      advance 1
      let name := plainText (words.headD [])
      if !isName name.toList then throw "Bad function name"
      skipLines ((← rest).length + 1)
      return .define name (← command room)
    else
      match ← pieces room .word [] with
      | [] =>
        if words.isEmpty && assignments.isEmpty && found.isEmpty then unexpected ""
        else if (← rest).head? = some '(' then unexpected ""
        else return .simple start assignments words found
      | word => simple room start assignments (words ++ [word]) found

end

def wholeLine : Nat → List Command → Reading Command
  | 0, _ => throw "out of room"
  | room + 1, done => do
    let next ← andOr (2 * (← rest).length + 20)
    skipBlanks
    let more (done : List Command) : Reading Command := do
      advance 1
      skipBlanks
      match ← rest with
      | [] | '\n' :: _ => return .sequence done
      | _ => wholeLine room done
    match ← rest with
    | [] | '\n' :: _ => return .sequence (done ++ [next])
    | ';' :: ';' :: _ => unexpected ""
    | ';' :: _ => more (done ++ [next])
    | '&' :: _ => more (done ++ [.background next])
    | _ => unexpected ""

end Reading

def givenText (text : List Char) (fills : Bool) : Word :=
  if fills then
    match ((Reading.pieces (2 * text.length + 20) .given []).run { rest := text }).1 with
    | .ok pieces => pieces
    | .error _ => [.text (String.ofList text) true]
  else [.text (String.ofList text) true]

def readLines : Nat → List Command → Source → List Command × Option (Nat × String) × Source
  | 0, done, source => (done, none, source)
  | room + 1, done, source =>
    let (_, source) := (Reading.skipLines (source.rest.length + 1)).run source
    if source.rest.isEmpty then (done, none, source)
    else
      match (Reading.wholeLine (source.rest.length + 1) []).run source with
      | (.error message, source) => (done, some (source.line, message), source)
      | (.ok next, source) =>
        if source.rest.isEmpty then (done ++ [next], none, source)
        else readLines room (done ++ [next]) (Reading.endLine.run source).2

def Program.readFrom (firstText : Nat) (script : String) : Program :=
  let source : Source := { rest := script.toList, nextText := firstText }
  let (commands, fault?, source) := readLines (script.length + 1) [] source
  let texts := source.texts.mapValues fun _ (text, fills) => givenText text fills
  { commands, fault?, texts, nextText := source.nextText }

end UefiBuild.Script
