import UefiBuild.Script.Awk.Reader
import UefiBuild.Script.Awk.Value
import UefiBuild.Script.Tool.Options

namespace UefiBuild.Script.Awk

def meant : Nat → List Char → List Char
  | room + 1, '\\' :: rest =>
    let (c, rest) := Printing.escape rest
    c :: meant room rest
  | room + 1, c :: rest => c :: meant room rest
  | _, cs => cs

def assignment? (operand : String) : Option (String × Value) :=
  (Text.cutAtFirst? '=' operand).bind fun (name, value) =>
    if isName name.toList then
      some (name, .ofInput (String.ofList (meant value.length value.toList)))
    else none

inductive Slot
  | value (value : Value)
  | array (key : String)

structure Session where
  program : Program
  title : String
  command : String → Act Unit
  values : Table String Value
  arrays : Table String (Table String Value) := ∅
  frames : List (Table String Slot) := []
  nextArray : Nat := 0
  record : Value := .unset
  fields : List Value := []
  operands : List String
  source? : Option (List Char) := none
  hasRead : Bool := false
  readers : Table String (List Char) := ∅
  writers : Table String (Bool × String) := ∅
  begun : List Nat := []
  status : Nat := 0

inductive Stop
  | next
  | nextFile
  | exit
  | fault
  | break
  | continue
  | return (value : Value)

abbrev Running (α : Type) : Type := ExceptT Stop (StateT Session Act) α

namespace Running

def machine : Running Machine := liftM (m := Act) get

def act {α : Type} (step : Act α) : Running α := liftM step

def stopWith {α : Type} (what : String) : Running α := do
  let title := (← get).title
  act (Act.emit 2 s!"{title}: {what}\n")
  modify fun session => { session with status := 2 }
  throw .fault

def global (name : String) : Running Value := return (← get).values.getD name .unset

def setGlobal (name : String) (value : Value) : Running Unit :=
  modify fun session => { session with values := session.values.insert name value }

def globalText (name : String) : Running String := return ((← global name).toText "%.6g")

def number (value : Value) : Running Rat := return value.toNumber

def text (value : Value) : Running String := return value.toText (← globalText "CONVFMT")

def shown (value : Value) : Running String := return value.toText (← globalText "OFMT")

def fault {α : Type} (what : String) : Running α := do
  let file ← globalText "FILENAME"
  let inFile ← globalText "FNR"
  let all ← globalText "NR"
  let place := "\tFILENAME=\"" ++ file ++ "\" FNR=" ++ inFile ++ " NR=" ++ all
  stopWith ("run time error: " ++ what ++ "\n" ++ place)

def regexOf (s : String) : Running Regex := do
  match Regex.read true s with
  | .ok (regex, _) => return regex
  | .error what => fault s!"regular expression compile failed ({what})\n{s}"

def cutterOf (separator : String) : Running Cutter := do
  match Cutter.of separator with
  | .ok cutter => return cutter
  | .error what => fault s!"regular expression compile failed ({what})\n{separator}"

def setRecord (s : String) : Running Unit := do
  let cutter ← cutterOf (← globalText "FS")
  let fields := (cutter.cut s).map Value.ofInput
  modify fun session => { session with record := .ofInput s, fields }
  setGlobal "NF" (.ofNat fields.length)

def joinFields : Running Unit := do
  let parts ← (← get).fields.mapM shown
  let joint ← globalText "OFS"
  modify fun session => { session with record := .ofInput (Text.join joint parts) }
  setGlobal "NF" (.ofNat (← get).fields.length)

def field (place : Nat) : Running Value := do
  let session ← get
  return if place = 0 then session.record else session.fields.getD (place - 1) .unset

def setField (place : Nat) (value : Value) : Running Unit := do
  if place = 0 then setRecord (← shown value)
  else
    let fields := (← get).fields
    let fields := fields ++ List.replicate (place - fields.length) .unset
    modify fun session => { session with fields := fields.set (place - 1) value }
    joinFields

def slot? (name : String) : Running (Option Slot) := return (← get).frames.head?.bind (·.get? name)

def valueOf (name : String) : Running Value := do
  match ← slot? name with
  | some (.value value) => return value
  | some (.array _) => return .unset
  | none => global name

def setValueOf (name : String) (value : Value) : Running Unit := do
  match ← slot? name with
  | some _ =>
    modify fun session =>
      { session with
        frames := (session.frames.headD ∅).insert name (.value value) :: session.frames.tail }
  | none =>
    setGlobal name value
    if name = "NF" then
      let count := (Fraction.whole value.toNumber).toNat
      let fields := (← get).fields
      modify fun session =>
        { session with
          fields := fields.take count ++ List.replicate (count - fields.length) .unset }
      joinFields

def arrayKey (name : String) : Running String := do
  match ← slot? name with
  | some (.array key) => return key
  | _ => return name

def array (name : String) : Running (Table String Value) :=
  return (← get).arrays.getD (← arrayKey name) ∅

def setArray (name : String) (values : Table String Value) : Running Unit := do
  let key ← arrayKey name
  modify fun session => { session with arrays := session.arrays.insert key values }

/-- The keys of an array in the order in which they are gone through, which is that of a hash. -/
def keysInOrder (values : Table String Value) : List String :=
  let hash (key : String) : Nat :=
    key.toList.foldl (fun n c => ((n ^^^ c.toNat) * 16777619) % 4294967296) 2166136261
  values.keys.reverse.mergeSort fun a b => decide (hash a % 64 ≤ hash b % 64)

def flush (name : String) : Running Unit := do
  match (← get).writers.get? name with
  | none => pure ()
  | some (isCommand, waiting) =>
    if isCommand then
      let command := (← get).command
      act do
        let opened := (← get).opened
        modify fun machine => machine.bindStream 0 { channel := .buffer waiting }
        command name
        modify fun machine => { machine with opened }
    else
      let before := ((← machine).readFile name).toOption.getD ""
      match (← machine).writeFile name (before ++ waiting) with
      | .ok after => act (set after)
      | .error _ => pure ()

def close (name : String) : Running Value := do
  let session ← get
  let isOpen := session.writers.contains name || session.readers.contains name
  flush name
  modify fun session =>
    { session with
      writers := session.writers.filter fun other _ => other ≠ name
      readers := session.readers.filter fun other _ => other ≠ name }
  return .number (if isOpen then 0 else -1)

def flushAll : Running Unit := do
  for (name, isCommand, _) in (← get).writers.entries do
    if !isCommand then
      flush name
      modify fun session => { session with writers := session.writers.insert name (false, "") }

def system (line : String) : Running Value := do
  flushAll
  let command := (← get).command
  act (command line)
  return .ofNat (← machine).status

def capture (line : String) : Running String := do
  flushAll
  let command := (← get).command
  act do
    let opened := (← get).opened
    let number := (← get).nextStream
    modify fun machine => machine.bindStream 1 { channel := .buffer "" }
    command line
    modify fun machine => { machine with opened }
    let machine ← get
    return ((machine.streams.get? number).map machine.contentOf).getD ""

def printTo (operator name text : String) : Running Unit := do
  let standing :=
    if name = "-" then some (some 1) else if operator = "|" then none else Machine.standing? name
  match standing with
  | some none => pure ()
  | some (some fd) => act (Act.emit fd text)
  | none =>
    if !(← get).writers.contains name && operator ≠ "|" then
      let machine ← machine
      let before := if operator = ">>" then (machine.readFile name).toOption.getD "" else ""
      match machine.writeFile name before with
      | .ok after => act (set after)
      | .error error =>
        stopWith ("cannot open \"" ++ name ++ "\" for output (" ++ reason error ++ ")")
    modify fun session =>
      { session with
        writers := session.writers.update name fun old? =>
          (operator = "|", (old?.map Prod.snd).getD "" ++ text) }

def cutRecord (separator : String) (cs : List Char) : Running (Option (String × List Char)) := do
  match separator.toList with
  | [] =>
    let cs := cs.dropWhile (· = '\n')
    if cs = [] then return none
    let regex : Regex := .seq (Regex.char '\n') (.rep (Regex.char '\n') 1 none)
    match regex.find? false none cs with
    | some found => return some (String.ofList found.before, found.after)
    | none => return some ((Text.beforeEnd? "\n" (String.ofList cs)).getD (String.ofList cs), [])
  | [c] =>
    if cs = [] then return none
    let record := cs.takeWhile (· ≠ c)
    return some (String.ofList record, cs.drop (record.length + 1))
  | _ =>
    if cs = [] then return none
    match (← regexOf separator).find? false none cs with
    | some found => return some (String.ofList found.before, found.after)
    | none => return some (String.ofList cs, [])

def count (name : String) : Running Unit := do
  setGlobal name (.number ((← global name).toNumber + 1))

def nextRecord? : Nat → Running (Option String)
  | 0 => return none
  | room + 1 => do
    let session ← get
    match session.source? with
    | some cs =>
      match ← cutRecord (← globalText "RS") cs with
      | some (record, rest) =>
        modify fun session => { session with source? := some rest }
        count "NR"
        count "FNR"
        return some record
      | none =>
        modify fun session => { session with source? := none }
        nextRecord? room
    | none =>
      match session.operands with
      | [] =>
        if session.hasRead then return none
        else
          let cs := (← act (Act.takeAll 0)).toList
          set { session with source? := some cs, hasRead := true }
          nextRecord? room
      | operand :: rest =>
        set { session with operands := rest }
        match assignment? operand with
        | some (name, value) =>
          setValueOf name value
          nextRecord? room
        | none =>
          if operand = "" then nextRecord? room
          else
            match ← act (Tool.input operand) with
            | .ok text =>
              modify fun session => { session with source? := some text.toList, hasRead := true }
              setGlobal "FILENAME" (.text operand)
              setGlobal "FNR" (.number 0)
              nextRecord? room
            | .error .isFolder => stopWith s!"read error ({reason .isFolder})"
            | .error error => stopWith ("cannot open \"" ++ operand ++ "\" (" ++ reason error ++ ")")

end Running

end UefiBuild.Script.Awk
