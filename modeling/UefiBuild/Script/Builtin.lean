import UefiBuild.Script.Condition
import UefiBuild.Script.Exec
import UefiBuild.Script.Tool.Options
import UefiBuild.Script.Printing

namespace UefiBuild.Script.Builtin

def special : List String :=
  [".", ":", "break", "continue", "eval", "exec", "exit", "export", "readonly", "return", "set", "shift",
    "times", "trap", "unset"]

def regular : List String :=
  ["alias", "bg", "cd", "command", "echo", "false", "fg", "getopts", "hash", "jobs", "kill", "local",
    "printf", "pwd", "read", "test", "[", "true", "type", "ulimit", "umask", "unalias", "wait"]

def assignment? (s : String) : Option (String × String) :=
  (Text.cutAtFirst? '=' s).bind fun (name, value) =>
    if isName name.toList then some (name, value) else none

def takeOptions (allowed : List Char) : List String → Exec (List Char × List String)
  | [] => return ([], [])
  | argument :: rest =>
    match argument.toList with
    | ['-', '-'] => return ([], rest)
    | '-' :: c :: cs => do
      match (c :: cs).find? fun letter => !allowed.contains letter with
      | some letter => Exec.fail s!"Illegal option -{letter}"
      | none =>
        let (letters, rest) ← takeOptions allowed rest
        return (c :: cs ++ letters, rest)
    | _ => return ([], argument :: rest)

def put (text : String) : Exec Unit := do
  let machine ← get
  if (machine.streamOf? 1).isNone && text ≠ "" then
    Act.complain s!"{machine.title}: I/O error" 1
  else set (machine.emit 1 text)

def printf (arguments : List String) : Exec Unit := do
  let (_, operands) ← takeOptions [] arguments
  match operands with
  | [] => Exec.fail "usage: printf format [arg ...]"
  | pattern :: arguments =>
    let printed := Printing.fillAll pattern.toList (arguments.length + 1) arguments
    put (String.ofList printed.text)
    for what in printed.faults do
      Act.complain what (if printed.broken then 2 else 1)

def condition (name : String) (arguments : List String) : Exec Unit := do
  let arguments ←
    if name = "[" then
      if arguments.getLast? = some "]" then pure arguments.dropLast
      else Exec.fail "missing ]"
    else pure arguments
  match Condition.holds (← get) arguments with
  | .ok holds => Act.setStatus (if holds then 0 else 1)
  | .error what => Exec.fail what

def cd (arguments : List String) : Exec Unit := do
  let (_, operands) ← takeOptions ['L', 'P'] arguments
  let machine ← get
  let previous := (machine.value? "OLDPWD").getD ""
  match operands with
  | [] | "" :: _ => pure ()
  | name :: _ =>
    let target := if name = "-" then previous else name
    if target ≠ "" && machine.isFolder target then
      let folder := (machine.path target).text
      let current := toBytes machine.folder
      set { machine with
        folder, values := (machine.values.insert "OLDPWD" current).insert "PWD" (toBytes folder) }
      if name = "-" then put (toBytes folder ++ "\n")
    else Exec.fail s!"can't cd to {target}"

def readLine (raw : Bool) : List Char → List Field.LineChar × Nat × Bool
  | [] => ([], 0, false)
  | '\n' :: _ => ([], 1, true)
  | '\\' :: c :: rest =>
    if raw then
      let (line, used, ended) := readLine raw (c :: rest)
      (('\\', false) :: line, used + 1, ended)
    else
      let (line, used, ended) := readLine raw rest
      (if c = '\n' then line else (c, true) :: line, used + 2, ended)
  | '\x00' :: rest =>
    let (line, used, ended) := readLine raw rest
    (line, used + 1, ended)
  | c :: rest =>
    let (line, used, ended) := readLine raw rest
    (if c = '\\' && !raw then line else (c, false) :: line, used + 1, ended)

def read (arguments : List String) : Exec Unit := do
  let isOption (argument : String) : Bool := argument = "-r"
  let before := arguments.takeWhile isOption
  let rest := arguments.drop before.length
  let rest := if rest.head? = some "-p" then rest.drop 2 else rest
  let (letters, names) ← takeOptions ['r'] rest
  let raw := !before.isEmpty || letters.contains 'r'
  if names.isEmpty then Exec.fail "arg count"
  let machine ← get
  let (line, used, ended) := readLine raw (machine.unread 0)
  set (machine.skip 0 used)
  let values := Field.ofLine machine.separators names.length line
  for (name, place) in names.zipIdx do
    Exec.checkName name name
    Exec.assign name (values.getD place "")
  Act.setStatus (if ended then 0 else 1)

def quoted (value : String) : String :=
  let pieces := Text.split '\x27' value
  "\x27" ++ Text.join "\x27\"\x27\"\x27" pieces ++ "\x27"

def listing (kind : String) (names : List String) : Exec Unit := do
  let machine ← get
  for name in names.mergeSort fun a b => decide (a ≤ b) do
    match machine.value? name with
    | some value => put s!"{kind} {name}={quoted value}\n"
    | none => put s!"{kind} {name}\n"

def declare (kind : String) (arguments : List String) : Exec Unit := do
  let (letters, operands) ← takeOptions ['p'] arguments
  let machine ← get
  if operands.isEmpty || letters.contains 'p' then
    listing kind (if kind = "export" then machine.exported else machine.locked)
  else
    for operand in operands do
      let (name, value?) :=
        match Text.cutAtFirst? '=' operand with
        | some (name, value) => (name, some value)
        | none => (operand, none)
      Exec.checkName name name
      match value? with
      | some value => Exec.assign name value
      | none => pure ()
      modify fun machine =>
        if kind = "export" then { machine with exported := addNew machine.exported name }
        else { machine with locked := addNew machine.locked name }

def unset (arguments : List String) : Exec Unit := do
  let (letters, operands) ← takeOptions ['f', 'v'] arguments
  for name in operands do
    if letters.contains 'f' then
      modify fun machine =>
        { machine with functions := machine.functions.filter fun other _ => other ≠ name }
    else
      Exec.checkName name name
      if (← get).locked.contains name then Exec.fail s!"{name}: is read only"
      modify fun machine =>
        { machine with
          values := machine.values.filter fun other _ => other ≠ name
          exported := machine.exported.filter (· ≠ name) }

def optionNames : List (String × Char) :=
  [("errexit", 'e'), ("noglob", 'f'), ("ignoreeof", 'I'), ("interactive", 'i'), ("monitor", 'm'),
    ("noexec", 'n'), ("stdin", 's'), ("xtrace", 'x'), ("verbose", 'v'), ("vi", 'V'), ("emacs", 'E'),
    ("noclobber", 'C'), ("allexport", 'a'), ("notify", 'b'), ("nounset", 'u')]

def setOption (on : Bool) (letter : Char) : Act Unit :=
  modify fun machine =>
    let wanted (other : Char) : Bool := if other = letter then on else machine.options.contains other
    { machine with options := (optionNames.map Prod.snd).filter wanted }

/-- Sets options by their letters and names, and gives the arguments that follow, if there are any or
if a mark says that there are none. -/
def setOptions : List String → Exec (Option (List String))
  | [] => return none
  | argument :: rest => do
    match argument.toList with
    | ['-', '-'] => return some rest
    | ['-'] =>
      setOption false 'x'
      setOption false 'v'
      if rest.isEmpty then return none else return some rest
    | sign :: letters =>
      if sign ≠ '-' && sign ≠ '+' then return some (argument :: rest)
      else if letters = ['o'] then
        match rest with
        | [] => return none
        | name :: rest =>
          match optionNames.lookup name with
          | some letter => setOption (sign = '-') letter
          | none => Exec.fail s!"Illegal option -o {name}"
          setOptions rest
      else
        for letter in letters do
          if (optionNames.map Prod.snd).contains letter then setOption (sign = '-') letter
          else Exec.fail s!"Illegal option -{letter}"
        setOptions rest
    | [] => return some (argument :: rest)

def shift (arguments : List String) : Exec Unit := do
  let count ←
    match arguments with
    | [] => pure 1
    | written :: _ => Exec.count written
  let machine ← get
  if machine.arguments.length < count then Exec.fail "can't shift that many"
  set { machine with
    arguments := machine.arguments.drop count, optionPlace := 1, optionIndex := 0 }

def localNames (arguments : List String) : Exec Unit := do
  if (← get).kept.isEmpty then Exec.fail "not in a function"
  for argument in arguments do
    let (name, value?) :=
      match Text.cutAtFirst? '=' argument with
      | some (name, value) => (name, some value)
      | none => (argument, none)
    if name ≠ "-" then
      Exec.checkName name name
      modify fun machine =>
        match machine.kept with
        | [] => machine
        | inner :: outer =>
          if inner.contains name then machine
          else { machine with kept := inner.insert name (machine.value? name) :: outer }
      match value? with
      | some value => Exec.assign name value
      | none => pure ()

def findOption? (letter : Char) : List Char → Option Bool
  | [] => none
  | c :: ':' :: rest => if c = letter then some true else findOption? letter rest
  | c :: rest => if c = letter then some false else findOption? letter rest

def getopts (arguments : List String) : Exec Unit := do
  match arguments with
  | options :: name :: rest =>
    let machine ← get
    let given := if rest.isEmpty then machine.arguments else rest
    let argument (place : Nat) : Option (List Char) :=
      if place = 0 then none else (given[place - 1]?).map String.toList
    let place := max machine.optionPlace 1
    let silent := Text.startsWith ":" options
    let finish (place index : Nat) (letter : String) (status : Nat) : Exec Unit := do
      Exec.assign "OPTIND" (toString place)
      Exec.assign name letter
      modify fun machine => { machine with optionPlace := place, optionIndex := index, status }
    let left : List Char :=
      if machine.optionIndex = 0 then [] else ((argument (place - 1)).getD []).drop machine.optionIndex
    let (left, place) :=
      if !left.isEmpty then (left, place)
      else
        match argument place with
        | some ('-' :: c :: cs) => (c :: cs, place + 1)
        | _ => ([], place)
    match left with
    | [] => finish place 0 "?" 1
    | letter :: more =>
      let shown := String.singleton letter
      if left = ['-'] && argument (place - 1) = some ['-', '-'] then finish place 0 "?" 1
      else
        let used := ((argument (place - 1)).getD []).length - more.length
        match (if letter = ':' then none else findOption? letter options.toList) with
        | none =>
          if silent then Exec.assign "OPTARG" shown
          else
            Act.emit 2 s!"Illegal option -{shown}\n"
            unset ["OPTARG"]
          finish place used "?" 0
        | some false =>
          Exec.assign "OPTARG" ""
          finish place used shown 0
        | some true =>
          if !more.isEmpty then
            Exec.assign "OPTARG" (String.ofList more)
            finish place 0 shown 0
          else
            match argument place with
            | some value =>
              Exec.assign "OPTARG" (String.ofList value)
              finish (place + 1) 0 shown 0
            | none =>
              if silent then
                Exec.assign "OPTARG" shown
                finish place used ":" 0
              else
                Act.emit 2 s!"No arg for -{shown} option\n"
                unset ["OPTARG"]
                finish place used "?" 0
  | _ => Exec.fail "Usage: getopts optstring var [arg...]"

def signals : List String :=
  ["EXIT", "HUP", "INT", "QUIT", "ILL", "TRAP", "ABRT", "BUS", "FPE", "KILL", "USR1", "SEGV", "USR2",
    "PIPE", "ALRM", "TERM", "STKFLT", "CHLD", "CONT", "STOP", "TSTP", "TTIN", "TTOU", "URG", "XCPU",
    "XFSZ", "VTALRM", "PROF", "WINCH", "IO", "PWR", "SYS"]

def signal? (s : String) : Option Nat :=
  if s ≠ "" && s.toList.all Char.isDigit then s.toNat?.filter (· ≤ 64)
  else
    let place := signals.findIdx fun name => name = s.toUpper
    if place < signals.length then some place else none

/-- Says what is to run at the end of the script. Other signals never come. -/
def trap (arguments : List String) : Exec Unit := do
  let (_, operands) ← takeOptions [] arguments
  let (action?, names) :=
    match operands with
    | action :: name :: names =>
      if (signal? action).isSome && action.toList.all Char.isDigit then (none, operands)
      else (if action = "-" then none else some action, name :: names)
    | operands => (none, operands)
  if operands.isEmpty then
    match (← get).farewell? with
    | some action => put s!"trap -- {quoted action} EXIT\n"
    | none => pure ()
  for name in names do
    match signal? name with
    | some 0 => modify fun machine => { machine with farewell? := action? }
    | some _ => pure ()
    | none =>
      if (← get).status = 0 then
        Act.emit 2 s!"trap: {name}: bad trap\n"
        Act.setStatus 1

/-- Sends signals. Only the script itself can be told to end; zero asks whether it is there. -/
def kill (arguments : List String) : Exec Unit := do
  let (name, numbers) :=
    match arguments with
    | "-s" :: name :: numbers => (name, numbers)
    | "--" :: numbers => ("TERM", numbers)
    | argument :: rest =>
      match Text.afterStart? "-" argument with
      | some name => (name, rest)
      | none => ("TERM", arguments)
    | [] => ("TERM", [])
  match signal? name with
  | none => Exec.fail s!"invalid signal number or name: {name}"
  | some signal =>
    for number in numbers do
      if number ≠ Machine.ownNumber && number ≠ Machine.jobNumber then
        Act.complain "No such process" 1
      else if signal ≠ 0 && number = Machine.ownNumber then
        modify fun machine => { machine with farewell? := none, status := 128 + signal }
        throw .exit

def wait (arguments : List String) : Exec Unit := do
  let status := (← get).jobStatus?.getD 0
  Act.setStatus (if arguments.isEmpty then 0
    else if arguments.getLast? = some Machine.jobNumber then status else 127)

end UefiBuild.Script.Builtin
