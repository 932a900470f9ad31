import UefiBuild.Script.Awk.Session

namespace UefiBuild.Script.Awk

namespace Running

def advance : Running Bool := do
  match ← nextRecord? (2 * (← get).operands.length + 4) with
  | some record =>
    setRecord record
    return true
  | none => return false

def found? (regex : Regex) (s : String) : Option (Nat × Nat) :=
  (regex.find? false none s.toList).map fun found => (found.before.length, found.found.length)

/-- The part of a text that starts at a place, counted from one, and is so long. A start before the
text makes the part longer. -/
def part (s : String) (start : Rat) (length? : Option Rat) : String :=
  let first := Fraction.whole start
  let rest := s.toList.drop (first - 1).toNat
  match length? with
  | none => String.ofList rest
  | some length =>
    let length := if first < 1 then length - first else length
    String.ofList (rest.take (Fraction.whole length).toNat)

def fillIn (found : List Char) : List Char → List Char
  | [] => []
  | '\\' :: '&' :: rest => '&' :: fillIn found rest
  | '\\' :: '\\' :: rest => '\\' :: fillIn found rest
  | '&' :: rest => found ++ fillIn found rest
  | c :: rest => c :: fillIn found rest

/-- A character that no text of bytes has. It marks the matches, to count them. -/
def mark : Char := '\uffff'

def substitute (regex : Regex) (everywhere : Bool) (written s : String) : Nat × String :=
  let marked (found : Regex.Match) : List Char := mark :: fillIn found.found written.toList
  let (cs, _) := regex.replace false marked everywhere 1 s.toList
  (cs.count mark, String.ofList (cs.filter (· ≠ mark)))

def worked (operator : Char) (a b : Rat) : Value :=
  let infinite : Value := .text (if a = 0 then "-nan" else if a < 0 then "-inf" else "inf")
  match operator with
  | '+' => .number (Fraction.near (a + b))
  | '-' => .number (Fraction.near (a - b))
  | '*' => .number (Fraction.near (a * b))
  | '/' => if b = 0 then infinite else .number (Fraction.near (a / b))
  | '%' => if b = 0 then .text "-nan" else .number (a - b * Fraction.whole (a / b))
  | _ =>
    let power := Fraction.whole b
    if a = 0 && power < 0 then infinite else .number (Fraction.near (a ^ power))

def formatted (title : String) (values : List Value) : Running String := do
  let first ← text (values.headD .unset)
  let pattern ← globalText "CONVFMT"
  match fillShapes Value.toNumber (·.toText pattern) (first.length + 1) first.toList values.tail with
  | some cs => return String.ofList cs
  | none => fault ("not enough arguments passed to " ++ title ++ "(\"" ++ first ++ "\")")

def simpleCall (name : String) (values : List Value) : Running Value := do
  let texts ← values.mapM text
  let first := texts.headD ""
  let second := texts.getD 1 ""
  match name with
  | "substr" =>
    return .text (part first (values.getD 1 .unset).toNumber (values[2]?.map Value.toNumber))
  | "index" =>
    match found? (second.toList.foldr (fun c rest => .seq (Regex.char c) rest) .empty) first with
    | some (place, _) => return .ofNat (place + 1)
    | none => return .ofNat 0
  | "int" => return .number (Fraction.whole (values.headD .unset).toNumber)
  | "tolower" => return .text (String.ofList (first.toList.map Char.toLower))
  | "toupper" => return .text (String.ofList (first.toList.map Char.toUpper))
  | "sprintf" => return .text (← formatted "sprintf" values)
  | "system" => system first
  | "close" => close first
  | "fflush" =>
    flushAll
    return .ofNat 0
  | _ => return .unset

mutual

def expr : Nat → Expr → Running Value
  | 0, _ => throw .exit
  | room + 1, e => do
    match e with
    | .number n => return .number n
    | .text s => return .text s
    | .pattern regex => return .ofBool (regex.occursIn false (← shown (← field 0)).toList)
    | .name name => valueOf name
    | .field place => field (← placeOf room place)
    | .element name keys =>
      let key ← keyOf room keys
      let values ← array name
      if !values.contains key then setArray name (values.insert key .unset)
      return values.getD key .unset
    | .list [e] => expr room e
    | .list keys => return .text (← keyOf room keys)
    | .assign operator? target value =>
      let value ← expr room value
      match operator? with
      | none => assignTo room target value
      | some operator =>
        let old ← expr room target
        assignTo room target (worked operator old.toNumber value.toNumber)
    | .step amount after target =>
      let old := (← expr room target).toNumber
      let new := worked '+' old amount
      discard (assignTo room target new)
      return if after then new else .number old
    | .opposite e => return .number (-(← expr room e).toNumber)
    | .plus e => return .number (← expr room e).toNumber
    | .no e => return .ofBool !(← expr room e).holds
    | .work operator a b =>
      let a ← expr room a
      let b ← expr room b
      return worked operator a.toNumber b.toNumber
    | .glue a b =>
      let a ← text (← expr room a)
      let b ← text (← expr room b)
      return .text (a ++ b)
    | .compare operator a b =>
      let a ← expr room a
      let b ← expr room b
      let order := Value.compare (← globalText "CONVFMT") a b
      let holds :=
        match operator with
        | "<" => order == .lt
        | "<=" => order != .gt
        | "==" => order == .eq
        | "!=" => order != .eq
        | ">" => order == .gt
        | _ => order != .lt
      return .ofBool holds
    | .fits wanted s pattern =>
      let s ← text (← expr room s)
      let regex ← patternOf room pattern
      return .ofBool (regex.occursIn false s.toList = wanted)
    | .isKey key name =>
      let key ←
        match key with
        | .list keys => keyOf room keys
        | key => keyOf room [key]
      return .ofBool ((← array name).contains key)
    | .both a b =>
      if (← expr room a).holds then return .ofBool (← expr room b).holds else return .ofBool false
    | .either a b =>
      if (← expr room a).holds then return .ofBool true else return .ofBool (← expr room b).holds
    | .choose condition yes no =>
      if (← expr room condition).holds then expr room yes else expr room no
    | .call name arguments => call room name arguments
    | .line target? none none =>
      match target? with
      | none => return .ofBool (← advance)
      | some target =>
        match ← nextRecord? (2 * (← get).operands.length + 4) with
        | some record =>
          discard (assignTo room target (.ofInput record))
          return .ofNat 1
        | none => return .ofNat 0
    | .line target? (some file) _ =>
      let name ← text (← expr room file)
      if !(← get).readers.contains name then
        match ← act (Tool.input name) with
        | .ok content =>
          modify fun session =>
            { session with readers := session.readers.insert name content.toList }
        | .error _ => return .number (-1)
      lineFrom room name target? false
    | .line target? none (some command) =>
      let name ← text (← expr room command)
      if !(← get).readers.contains name then
        let content ← capture name
        modify fun session => { session with readers := session.readers.insert name content.toList }
      lineFrom room name target? true

def lineFrom : Nat → String → Option Expr → Bool → Running Value
  | 0, _, _, _ => throw .exit
  | room + 1, name, target?, counts => do
    let cs := (← get).readers.getD name []
    match ← cutRecord (← globalText "RS") cs with
    | none => return .ofNat 0
    | some (record, rest) =>
      modify fun session => { session with readers := session.readers.insert name rest }
      if counts then count "NR"
      match target? with
      | none => setRecord record
      | some target => discard (assignTo room target (.ofInput record))
      return .ofNat 1

def placeOf : Nat → Expr → Running Nat
  | 0, _ => throw .exit
  | room + 1, place => do
    let place := Fraction.whole (← expr room place).toNumber
    if place < 0 then fault s!"negative field index ${place}"
    return place.toNat

def keyOf : Nat → List Expr → Running String
  | 0, _ => throw .exit
  | room + 1, keys => do
    let keys ← keys.mapM fun key => do text (← expr room key)
    return Text.join (← globalText "SUBSEP") keys

def patternOf : Nat → Expr → Running Regex
  | 0, _ => throw .exit
  | room + 1, pattern => do
    match pattern with
    | .pattern regex => return regex
    | pattern => regexOf (← text (← expr room pattern))

def assignTo : Nat → Expr → Value → Running Value
  | 0, _, _ => throw .exit
  | room + 1, target, value => do
    match target with
    | .name name => setValueOf name value
    | .field place => setField (← placeOf room place) value
    | .element name keys =>
      let key ← keyOf room keys
      setArray name ((← array name).insert key value)
    | .list [target] => discard (assignTo room target value)
    | _ => pure ()
    return value

def call : Nat → String → List Expr → Running Value
  | 0, _, _ => throw .exit
  | room + 1, name, arguments => do
    match name, arguments with
    | "length", [] => return .ofNat (← shown (← field 0)).length
    | "length", [.name name] =>
      let values ← array name
      if values.isEmpty then return .ofNat (← text (← valueOf name)).length
      else return .ofNat values.size
    | "length", e :: _ => return .ofNat (← text (← expr room e)).length
    | "split", s :: .name name :: rest =>
      let s ← text (← expr room s)
      let cutter ←
        match rest with
        | .pattern regex :: _ => pure (Cutter.pattern regex)
        | separator :: _ => cutterOf (← text (← expr room separator))
        | [] => cutterOf (← globalText "FS")
      let parts := cutter.cut s
      setArray name (.ofList (parts.zipIdx.map fun (part, n) => (toString (n + 1), .ofInput part)))
      return .ofNat parts.length
    | "match", s :: pattern :: _ =>
      let s ← text (← expr room s)
      let regex ← patternOf room pattern
      let (start, length) : Int × Int :=
        match found? regex s with
        | some (before, length) => (before + 1, length)
        | none => (0, -1)
      setGlobal "RSTART" (.number start)
      setGlobal "RLENGTH" (.number length)
      return .number start
    | "sub", pattern :: written :: rest => change room false pattern written (rest.headD (.field (.number 0)))
    | "gsub", pattern :: written :: rest => change room true pattern written (rest.headD (.field (.number 0)))
    | name, arguments =>
      match (← get).program.functions.get? name with
      | some function => callOwn room function arguments
      | none => simpleCall name (← arguments.mapM fun e => expr room e)

def change : Nat → Bool → Expr → Expr → Expr → Running Value
  | 0, _, _, _, _ => throw .exit
  | room + 1, everywhere, pattern, written, target => do
    let regex ← patternOf room pattern
    let written ← text (← expr room written)
    let (times, changed) := substitute regex everywhere written (← text (← expr room target))
    if 0 < times then discard (assignTo room target (.text changed))
    return .ofNat times

def callOwn : Nat → Function → List Expr → Running Value
  | 0, _, _ => throw .exit
  | room + 1, function, arguments => do
    let slots ← arguments.mapM fun e => do
      match e with
      | .name name =>
        match ← slot? name with
        | some slot => return slot
        | none =>
          match ← global name with
          | .unset => return Slot.array name
          | value => return Slot.value value
      | e => return Slot.value (← expr room e)
    let number := (← get).nextArray
    let fresh := function.parameters.zipIdx.map fun (name, place) =>
      (name, slots.getD place (.array s!"{name} {number}"))
    modify fun session =>
      { session with nextArray := number + 1, frames := .ofList fresh :: session.frames }
    let frames := (← get).frames.tail
    ExceptT.mk do
      let result ← (statement room function.body).run
      modify fun session => { session with frames }
      match result with
      | .ok () => return .ok .unset
      | .error (.return value) => return .ok value
      | .error stop => return .error stop

def statement : Nat → Statement → Running Unit
  | 0, _ => throw .exit
  | room + 1, s => do
    match s with
    | .value e => discard (expr room e)
    | .print parts target? =>
      let parts ←
        if parts.isEmpty then (fun record => [record]) <$> field 0
        else parts.mapM fun e => expr room e
      let line := Text.join (← globalText "OFS") (← parts.mapM shown) ++ (← globalText "ORS")
      put room target? line
    | .printf parts target? =>
      put room target? (← formatted "printf" (← parts.mapM fun e => expr room e))
    | .block statements =>
      for s in statements do
        statement room s
    | .branch condition yes no? =>
      if (← expr room condition).holds then statement room yes
      else
        match no? with
        | some no => statement room no
        | none => pure ()
    | .while condition body => loop room (some condition) none body
    | .doWhile body condition =>
      if ← turn room body then loop room (some condition) none body
    | .for first? condition? step? body =>
      match first? with
      | some first => statement room first
      | none => pure ()
      loop room condition? step? body
    | .forEach name array_ body =>
      let key ← arrayKey array_
      forKeys room name (keysInOrder ((← get).arrays.getD key ∅)) body
    | .next => throw .next
    | .nextFile => throw .nextFile
    | .exit status? =>
      match status? with
      | some status =>
        let status := Fraction.whole (← expr room status).toNumber
        modify fun session => { session with status := (status % 256).toNat }
      | none => pure ()
      throw .exit
    | .break => throw .break
    | .continue => throw .continue
    | .return value? =>
      match value? with
      | some value => throw (.return (← expr room value))
      | none => throw (.return .unset)
    | .delete name keys? =>
      match keys? with
      | some keys =>
        let key ← keyOf room keys
        setArray name ((← array name).filter fun other _ => other ≠ key)
      | none => setArray name ∅

def put : Nat → Option Target → String → Running Unit
  | 0, _, _ => throw .exit
  | room + 1, target?, line => do
    match target? with
    | none => act (Act.emit 1 line)
    | some target => printTo target.operator (← text (← expr room target.place)) line

def turn : Nat → Statement → Running Bool
  | 0, _ => throw .exit
  | room + 1, body =>
    ExceptT.mk do
      match ← (statement room body).run with
      | .ok () | .error .continue => return .ok true
      | .error .break => return .ok false
      | .error stop => return .error stop

def loop : Nat → Option Expr → Option Statement → Statement → Running Unit
  | 0, _, _, _ => throw .exit
  | room + 1, condition?, step?, body => do
    let goes ←
      match condition? with
      | some condition => Value.holds <$> expr room condition
      | none => pure true
    if goes then
      if ← turn room body then
        match step? with
        | some step => statement room step
        | none => pure ()
        loop room condition? step? body

def forKeys : Nat → String → List String → Statement → Running Unit
  | 0, _, _, _ => throw .exit
  | _, _, [], _ => return
  | room + 1, name, key :: rest, body => do
    setValueOf name (.ofInput key)
    if ← turn room body then forKeys room name rest body

end

/-- Whether a rule is for the record at hand. A range goes on up to the record that ends it. -/
def selects (room number : Nat) (selector : Selector) : Running Bool := do
  match selector with
  | .begin | .finish => return false
  | .always => return true
  | .when condition => return (← expr room condition).holds
  | .between first last =>
    if !(← get).begun.contains number then
      if !(← expr room first).holds then return false
      modify fun session => { session with begun := number :: session.begun }
    if (← expr room last).holds then
      modify fun session => { session with begun := session.begun.filter (· ≠ number) }
    return true

def rule (room number : Nat) (rule : Rule) : Running Unit := do
  if ← selects room number rule.selector then
    statement room (rule.body?.getD (.print [] none))

def rules (room : Nat) : Running Unit := do
  for (found, number) in (← get).program.rules.zipIdx do
    rule room number found

def records : Nat → Running Unit
  | 0 => return
  | room + 1 => do
    if ← advance then
      ExceptT.mk do
        match ← (rules room).run with
        | .ok () | .error .next => return .ok ()
        | .error .nextFile =>
          modify fun session => { session with source? := none }
          return .ok ()
        | result => return result
      records room

def bodies (room : Nat) (isMeant : Selector → Bool) : Running Unit := do
  for rule in (← get).program.rules do
    if isMeant rule.selector then statement room (rule.body?.getD (.block []))

def ends (step : Running Unit) : Running Bool :=
  ExceptT.mk do
    match ← step.run with
    | .ok () => return .ok true
    | .error .fault => return .error .fault
    | .error _ => return .ok false

def whole (room : Nat) : Running Unit := do
  let isBegin (selector : Selector) : Bool := selector matches .begin
  let isFinish (selector : Selector) : Bool := selector matches .finish
  let started ← ends (bodies room isBegin)
  let others := (← get).program.rules.filter fun rule => !isBegin rule.selector
  if !others.isEmpty then
    if started then discard (ends (records room))
    discard (ends (bodies room isFinish))

def finish : Running Unit := do
  for name in (← get).writers.keys do
    flush name

end Running

def run (program : Program) (title : String) (room : Nat) (command : String → Act Unit)
    (assigned : List (String × Value)) (operands : List String) : Act Unit := do
  let machine ← get
  let exported := machine.exported.filterMap fun name => (machine.value? name).map (name, ·)
  let arguments := (title :: operands).zipIdx.map fun (operand, n) =>
    (toString n, Value.ofInput operand)
  let session : Session :=
    { program, title, command, operands
      values := (Table.ofList
        [("FS", Value.text " "), ("OFS", .text " "), ("ORS", .text "\n"), ("RS", .text "\n"),
          ("SUBSEP", .text "\x1c"), ("CONVFMT", .text "%.6g"), ("OFMT", .text "%.6g"),
          ("NR", .ofNat 0), ("NF", .ofNat 0), ("FNR", .ofNat 0), ("RSTART", .ofNat 0),
          ("RLENGTH", .number (-1)), ("ARGC", .ofNat arguments.length)]).insertAll assigned
      arrays := Table.ofList
        [("ENVIRON", Table.ofList (exported.map fun (name, value) => (name, Value.ofInput value))),
          ("ARGV", Table.ofList arguments)] }
  let (_, after) ← (Running.whole room).run.run session
  discard (Running.finish.run.run after)
  Act.setStatus after.status

end UefiBuild.Script.Awk
