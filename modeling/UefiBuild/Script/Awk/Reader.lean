import UefiBuild.Script.Awk.Token

namespace UefiBuild.Script.Awk

structure Fault where
  line? : Option Nat
  what : String

abbrev Reading (α : Type) : Type := ExceptT Fault (StateM (List Placed)) α

namespace Reading

def next? : Reading (Option Token) := return (← get).head?.map Placed.token

def skip : Reading Unit := modify List.tail

def isNext (token : Token) : Reading Bool := return (← next?) = some token

def take (token : Token) : Reading Bool := do
  if ← isNext token then
    skip
    return true
  else return false

def unexpected {α : Type} : Reading α := do
  match ← get with
  | [] => throw ⟨none, "missing \x7d near end of file"⟩
  | found :: _ =>
    let shown := found.token.shown
    throw ⟨some found.line, s!"syntax error at or near {shown}"⟩

def expect (token : Token) : Reading Unit := do
  if !(← take token) then unexpected

def skipLines : Reading Unit := modify fun tokens => tokens.dropWhile fun found => found.token = .lineEnd

def skipEnds : Reading Unit :=
  modify fun tokens => tokens.dropWhile fun found => found.token ∈ [.lineEnd, .sign ";"]

def expectName : Reading String := do
  match ← next? with
  | some (.name name) =>
    skip
    return name
  | _ => unexpected

def endStatement : Reading Unit := do
  match ← next? with
  | some (.sign ";") | some .lineEnd => skip
  | some (.sign "\x7d") | none => pure ()
  | _ => unexpected

def atStatementEnd : Reading Bool := do
  return (← next?).all (· ∈ [.lineEnd, .sign ";", .sign "\x7d"])

def startsOperand : Token → Bool
  | .number _ _ | .text _ | .pattern _ | .name _ | .called _ => true
  | .sign s => s ∈ ["(", "$", "++", "--", "-", "+", "!"]
  | _ => false

def readPattern (s : String) : Reading Regex := do
  match Regex.read true s with
  | .ok (regex, _) => return regex
  | .error what => throw ⟨none, s!"regular expression compile failed ({what})\n{s}"⟩

structure Place where
  noIn : Bool := false
  noMore : Bool := false

mutual

def expr : Nat → Place → Reading Expr
  | 0, _ => unexpected
  | room + 1, place => do
    let first ← choose room place
    if !first.isTarget then return first
    match ← next? with
    | some (.sign "=") =>
      skip
      skipLines
      return .assign none first (← expr room place)
    | some (.sign s) =>
      match s.toList with
      | [c, '='] =>
        if c ∈ ['+', '-', '*', '/', '%', '^'] then
          skip
          return .assign (some c) first (← expr room place)
        else return first
      | _ => return first
    | _ => return first

def choose : Nat → Place → Reading Expr
  | 0, _ => unexpected
  | room + 1, place => do
    let condition ← either room place
    if ← take (.sign "?") then
      skipLines
      let yes ← expr room place
      skipLines
      expect (.sign ":")
      skipLines
      return .choose condition yes (← expr room place)
    else return condition

def either : Nat → Place → Reading Expr
  | 0, _ => unexpected
  | room + 1, place => do
    let first ← both room place
    if ← take (.sign "||") then
      skipLines
      return .either first (← either room place)
    else return first

def both : Nat → Place → Reading Expr
  | 0, _ => unexpected
  | room + 1, place => do
    let first ← member room place (← fits room place (← compared room place))
    if ← take (.sign "&&") then
      skipLines
      return .both first (← both room place)
    else return first

def member : Nat → Place → Expr → Reading Expr
  | 0, _, _ => unexpected
  | room + 1, place, key => do
    if !place.noIn && (← take (.word "in")) then member room place (.isKey key (← expectName))
    else return key

def fits : Nat → Place → Expr → Reading Expr
  | 0, _, _ => unexpected
  | room + 1, place, text => do
    if ← take (.sign "~") then fits room place (.fits true text (← compared room place))
    else if ← take (.sign "!~") then fits room place (.fits false text (← compared room place))
    else return text

def compared : Nat → Place → Reading Expr
  | 0, _ => unexpected
  | room + 1, place => do
    let first ← piped room (← glued room place)
    match ← next? with
    | some (.sign s) =>
      if s ∈ ["<", "<=", "==", "!=", ">="] || (s = ">" && !place.noMore) then
        skip
        return .compare s first (← glued room place)
      else return first
    | _ => return first

def piped : Nat → Expr → Reading Expr
  | 0, _ => unexpected
  | room + 1, command => do
    match ← get with
    | ⟨.sign "|", _⟩ :: ⟨.word "getline", _⟩ :: rest =>
      set rest
      let target? ← target? room
      piped room (.line target? none (some command))
    | _ => return command

def glued : Nat → Place → Reading Expr
  | 0, _ => unexpected
  | room + 1, place => do gluedRest room place (← added room place)

def gluedRest : Nat → Place → Expr → Reading Expr
  | 0, _, _ => unexpected
  | room + 1, place, first => do
    if (← next?).any startsOperand then gluedRest room place (.glue first (← added room place))
    else return first

def added : Nat → Place → Reading Expr
  | 0, _ => unexpected
  | room + 1, place => do addedRest room place (← multiplied room place)

def addedRest : Nat → Place → Expr → Reading Expr
  | 0, _, _ => unexpected
  | room + 1, place, first => do
    if ← take (.sign "+") then addedRest room place (.work '+' first (← multiplied room place))
    else if ← take (.sign "-") then addedRest room place (.work '-' first (← multiplied room place))
    else return first

def multiplied : Nat → Place → Reading Expr
  | 0, _ => unexpected
  | room + 1, place => do multipliedRest room place (← signed room place)

def multipliedRest : Nat → Place → Expr → Reading Expr
  | 0, _, _ => unexpected
  | room + 1, place, first => do
    if ← take (.sign "*") then multipliedRest room place (.work '*' first (← signed room place))
    else if ← take (.sign "/") then multipliedRest room place (.work '/' first (← signed room place))
    else if ← take (.sign "%") then multipliedRest room place (.work '%' first (← signed room place))
    else return first

def signed : Nat → Place → Reading Expr
  | 0, _ => unexpected
  | room + 1, place => do
    if ← take (.sign "!") then return .no (← signed room place)
    else if ← take (.sign "-") then return .opposite (← signed room place)
    else if ← take (.sign "+") then return .plus (← signed room place)
    else
      let base ← stepped room
      if ← take (.sign "^") then return .work '^' base (← signed room place)
      else return base

def stepped : Nat → Reading Expr
  | 0 => unexpected
  | room + 1 => do
    if ← take (.sign "++") then return .step 1 true (← operand room)
    else if ← take (.sign "--") then return .step (-1) true (← operand room)
    else
      let found ← operand room
      if !found.isTarget then return found
      else if ← take (.sign "++") then return .step 1 false found
      else if ← take (.sign "--") then return .step (-1) false found
      else return found

def operand : Nat → Reading Expr
  | 0 => unexpected
  | room + 1 => do
    match ← next? with
    | some (.number n _) =>
      skip
      return .number n
    | some (.text s) =>
      skip
      return .text s
    | some (.pattern s) =>
      skip
      return .pattern (← readPattern s)
    | some (.name name) =>
      skip
      if ← take (.sign "[") then
        let keys ← exprs room
        expect (.sign "]")
        return .element name keys
      else return .name name
    | some (.called name) =>
      skip
      if ← take (.sign "(") then
        skipLines
        if ← take (.sign ")") then return .call name []
        else
          let arguments ← exprs room
          skipLines
          expect (.sign ")")
          return .call name arguments
      else if name = "length" then return .call name []
      else unexpected
    | some (.sign "$") =>
      skip
      if ← take (.sign "++") then return .field (.step 1 true (← operand room))
      else if ← take (.sign "--") then return .field (.step (-1) true (← operand room))
      else if ← take (.sign "-") then return .field (.opposite (← operand room))
      else return .field (← operand room)
    | some (.sign "(") =>
      skip
      skipLines
      let parts ← exprs room
      skipLines
      expect (.sign ")")
      return .list parts
    | some (.sign "-") =>
      skip
      return .opposite (← operand room)
    | some (.word "getline") =>
      skip
      let target? ← target? room
      if ← take (.sign "<") then return .line target? (some (← stepped room)) none
      else return .line target? none none
    | _ => unexpected

def target? : Nat → Reading (Option Expr)
  | 0 => unexpected
  | room + 1 => do
    match ← next? with
    | some (.name _) | some (.sign "$") => some <$> operand room
    | _ => return none

def exprs : Nat → Reading (List Expr)
  | 0 => unexpected
  | room + 1 => do
    let first ← expr room {}
    if ← take (.sign ",") then
      skipLines
      return first :: (← exprs room)
    else return [first]

def printed : Nat → Reading (List Expr)
  | 0 => unexpected
  | room + 1 => do
    let first ← expr room { noMore := true }
    if ← take (.sign ",") then
      skipLines
      return first :: (← printed room)
    else return [first]

def printing : Nat → Reading (List Expr × Option Target)
  | 0 => unexpected
  | room + 1 => do
    let redirects : Reading Bool :=
      return (← next?).any (· ∈ [.sign ">", .sign ">>", .sign "|"])
    let parts ← if (← atStatementEnd) || (← redirects) then pure [] else printed room
    let parts :=
      match parts with
      | [.list inside] => inside
      | parts => parts
    if ← redirects then
      match ← next? with
      | some (.sign operator) =>
        skip
        return (parts, some { operator, place := ← glued room { noMore := true } })
      | _ => unexpected
    else return (parts, none)

def simple : Nat → Place → Reading Statement
  | 0, _ => unexpected
  | room + 1, place => do
    match ← next? with
    | some (.word "print") =>
      skip
      let (parts, target?) ← printing room
      return .print parts target?
    | some (.word "printf") =>
      skip
      let (parts, target?) ← printing room
      if parts.isEmpty then unexpected
      return .printf parts target?
    | some (.word "delete") =>
      skip
      let array ← expectName
      if ← take (.sign "[") then
        let keys ← exprs room
        expect (.sign "]")
        return .delete array (some keys)
      else return .delete array none
    | some (.word "next") => skip *> return .next
    | some (.word "nextfile") => skip *> return .nextFile
    | some (.word "break") => skip *> return .break
    | some (.word "continue") => skip *> return .continue
    | some (.word "exit") =>
      skip
      if ← atStatementEnd then return .exit none else return .exit (some (← expr room {}))
    | some (.word "return") =>
      skip
      if ← atStatementEnd then return .return none else return .return (some (← expr room {}))
    | _ => return .value (← expr room place)

def statement : Nat → Reading Statement
  | 0 => unexpected
  | room + 1 => do
    match ← next? with
    | some (.sign "\x7b") => block room
    | some (.sign ";") => skip *> return .block []
    | some (.word "if") =>
      skip
      expect (.sign "(")
      let condition ← expr room {}
      expect (.sign ")")
      skipLines
      let yes ← statement room
      let after ← get
      skipEnds
      if ← take (.word "else") then
        skipLines
        return .branch condition yes (some (← statement room))
      else
        set after
        return .branch condition yes none
    | some (.word "while") =>
      skip
      expect (.sign "(")
      let condition ← expr room {}
      expect (.sign ")")
      if ← take (.sign ";") then return .while condition (.block [])
      skipLines
      return .while condition (← statement room)
    | some (.word "do") =>
      skip
      skipLines
      let body ← statement room
      skipEnds
      expect (.word "while")
      expect (.sign "(")
      let condition ← expr room {}
      expect (.sign ")")
      endStatement
      return .doWhile body condition
    | some (.word "for") =>
      skip
      expect (.sign "(")
      match ← get with
      | ⟨.name key, _⟩ :: ⟨.word "in", _⟩ :: ⟨.name array, _⟩ :: ⟨.sign ")", _⟩ :: rest =>
        set rest
        skipLines
        return .forEach key array (← statement room)
      | _ =>
        let part (mark : Token) : Reading (Option Statement) := do
          if ← take mark then return none
          else
            let found ← simple room {}
            expect mark
            return some found
        let first? ← part (.sign ";")
        skipLines
        let condition? ← if ← take (.sign ";") then pure none
          else do
            let found ← expr room {}
            expect (.sign ";")
            pure (some found)
        skipLines
        let step? ← part (.sign ")")
        if ← take (.sign ";") then return .for first? condition? step? (.block [])
        skipLines
        return .for first? condition? step? (← statement room)
    | _ =>
      let found ← simple room {}
      endStatement
      return found

def block : Nat → Reading Statement
  | 0 => unexpected
  | room + 1 => do
    expect (.sign "\x7b")
    return .block (← statements room)

def statements : Nat → Reading (List Statement)
  | 0 => unexpected
  | room + 1 => do
    skipEnds
    if ← take (.sign "\x7d") then return []
    else
      let first ← statement room
      return first :: (← statements room)

end

def parameters : Nat → Reading (List String)
  | 0 => unexpected
  | room + 1 => do
    if ← take (.sign ")") then return []
    else
      let first ← expectName
      if ← take (.sign ",") then
        skipLines
        return first :: (← parameters room)
      else
        expect (.sign ")")
        return [first]

def selector (room : Nat) : Reading Selector := do
  if ← take (.word "BEGIN") then return .begin
  else if ← take (.word "END") then return .finish
  else if ← isNext (.sign "\x7b") then return .always
  else
    let first ← expr room {}
    if ← take (.sign ",") then
      skipLines
      return .between first (← expr room {})
    else return .when first

def program : Nat → Program → Reading Program
  | 0, _ => unexpected
  | room + 1, done => do
    skipEnds
    match ← next? with
    | none => return done
    | some (.word "function") =>
      skip
      match ← next? with
      | some (.called name) | some (.name name) =>
        skip
        expect (.sign "(")
        let parameters ← parameters room
        skipLines
        let body ← block room
        program room { done with functions := done.functions.insert name { parameters, body } }
      | _ => unexpected
    | some _ =>
      let selector ← selector room
      if ← isNext (.sign "\x7b") then
        let body ← block room
        program room { done with rules := done.rules ++ [{ selector, body? := some body }] }
      else if (selector matches .begin) || (selector matches .finish) then unexpected
      else if (← next?).all (· ∈ [.lineEnd, .sign ";"]) then
        program room { done with rules := done.rules ++ [{ selector, body? := none }] }
      else unexpected

end Reading

def Program.missing? (program : Program) (tokens : List Placed) : Option String :=
  tokens.findSome? fun found =>
    match found.token with
    | .called name =>
      if Token.builtins.contains name || program.functions.contains name then none else some name
    | _ => none

def Program.read (text : String) : Except String Program :=
  let cs := text.toList
  match Token.cut (2 * cs.length + 2) 1 false cs with
  | .error (line, what) => .error s!"line {line}: {what}"
  | .ok tokens =>
    let lines := cs.count '\n' + 2
    match (Reading.program (40 * tokens.length + 40) {}).run tokens with
    | (.ok program, _) =>
      match missing? program tokens with
      | some name => .error s!"line {lines}: function {name} never defined"
      | none => .ok program
    | (.error ⟨line?, what⟩, _) =>
      let line := line?.getD lines
      .error s!"line {line}: {what}"

end UefiBuild.Script.Awk
