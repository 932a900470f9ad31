import UefiBuild.Script.Builtin
import UefiBuild.Script.Runner
import UefiBuild.Script.Streams

namespace UefiBuild.Script

def isAssignment (word : Word) : Bool :=
  match word with
  | .text s false :: _ => (Builtin.assignment? s).isSome
  | _ => false

def stopOnFailure (tested : Bool) : Exec Unit := do
  let machine ← get
  if !tested && machine.isOn 'e' && machine.status ≠ 0 then throw .exit

def withoutEnds (text : String) : String :=
  String.ofList ((text.toList.filter (· ≠ '\x00')).reverse.dropWhile (· = '\n')).reverse

mutual

/-- What the pieces of a word stand for. Text from outside the script parts words, and so does all of a
text that stands in for a parameter. -/
def fill : Nat → Bool → Bool → Word → Exec (List Mark)
  | 0, _, _, _ => throw .exit
  | room + 1, foreign, single, word =>
    return (← word.mapM fun piece => fillPiece room foreign single piece).flatten

def fillPiece : Nat → Bool → Bool → Piece → Exec (List Mark)
  | 0, _, _, _ => throw .exit
  | room + 1, foreign, single, piece => do
    match piece with
    | .text s quoted => return Field.marks s.toList quoted (foreign && !quoted)
    | .quotes => return [.word]
    | .parameter name use quoted => fillParameter room single name use quoted
    | .output body quoted =>
      let text ← capture room body
      return Field.marks text.toList quoted (!quoted)
    | .sum expression quoted =>
      let text ← expandText room expression
      match Sum.work (← get).values text with
      | .error what => Exec.fail what
      | .ok (n, values) =>
        for (name, value) in values.entries do
          if (← get).value? name ≠ some value then Exec.assign name value
        return Field.marks (toString n).toList quoted (!quoted)

def fillParameter : Nat → Bool → String → Use → Bool → Exec (List Mark)
  | 0, _, _, _, _ => throw .exit
  | room + 1, single, name, use, quoted => do
    let machine ← get
    let value? := machine.parameter? name
    let marks (value : String) : List Mark := Field.marks value.toList quoted (!quoted)
    let whole (value : String) : List Mark :=
      if !single && (name = "@" || (name = "*" && !quoted)) then
        [Mark.border].intercalate (machine.arguments.map fun argument =>
          (if quoted then [Mark.word] else []) ++ marks argument)
      else marks value
    let needed : Exec String :=
      match value? with
      | some value => return value
      | none => if machine.isOn 'u' then Exec.fail s!"{name}: parameter not set" else return ""
    match use with
    | .value => return whole (← needed)
    | .length => return marks (toString (← needed).length)
    | .trim atEnd longest pattern =>
      let value ← needed
      let pattern ← expandField room pattern
      return marks (String.ofList (Glob.trim atEnd longest pattern value.toList))
    | .fallback kind emptyCounts word =>
      let isSet := value?.any fun value => !(emptyCounts && value = "")
      match kind with
      | .instead => if isSet then fill room (!quoted) single word else return []
      | .default =>
        if isSet then return whole (value?.getD "") else fill room (!quoted) single word
      | .assign =>
        if isSet then return whole (value?.getD "")
        else
          let value ← expandText room word
          Exec.checkName name name
          Exec.assign name value
          return marks value
      | .giveUp =>
        if isSet then return whole (value?.getD "")
        else
          let what ← expandText room word
          let usual := if emptyCounts then "parameter not set or null" else "parameter not set"
          let shown := if what = "" then usual else what
          Exec.fail s!"{name}: {shown}"
    | .bad => Exec.fail "Bad substitution"

def expandField : Nat → Word → Exec Field
  | 0, _ => throw .exit
  | room + 1, word => return Field.whole (← fill room false true word)

def expandText : Nat → Word → Exec String
  | 0, _ => throw .exit
  | room + 1, word => return Field.text (← expandField room word)

def expandWord : Nat → Word → Exec (List String)
  | 0, _ => throw .exit
  | room + 1, word => do
    let marks ← fill room false false word
    let machine ← get
    return (Field.part machine.separators marks).flatMap (Field.words machine)

def expandWords : Nat → List Word → List String → Exec (List String)
  | 0, _, _ => throw .exit
  | _, [], done => return done
  | room + 1, word :: rest, done => do
    let plain := done.dropWhile (· = "command")
    let assigns := plain.head?.any (· ∈ ["export", "readonly", "local"]) && isAssignment word
    let found ← if assigns then (fun text => [text]) <$> expandText room word else expandWord room word
    expandWords room rest (done ++ found)

def capture : Nat → Command → Exec String
  | 0, _ => throw .exit
  | room + 1, body => do
    let number := (← get).nextStream
    let status := (← get).status
    apart do
      modify fun machine => machine.bindStream 1 { channel := .buffer "" }
      modify fun machine => { machine with loops := 0 }
      inPlace room false body
    modify fun machine => { machine with outputStatus := machine.status, status }
    let machine ← get
    return withoutEnds (((machine.streams.get? number).map machine.contentOf).getD "")

def inPlace : Nat → Bool → Command → Exec Unit
  | 0, _, _ => throw .exit
  | room + 1, tested, body => Exec.finally_ (run room tested body) (farewell room)

def farewell : Nat → Act Unit
  | 0 => return
  | room + 1 => do
    let machine ← get
    match machine.farewell? with
    | none => return
    | some action =>
      set { machine with farewell? := none, title := "", finalStatus? := some machine.status }
      match ← (source room false action).run with
      | .error .exit | .error .fault => return
      | _ => Act.setStatus machine.status

def redirect : Nat → List Redirection → Exec Bool
  | 0, _ => throw .exit
  | _, [] => return true
  | room + 1, redirection :: rest => do
    match redirection with
    | .given fd text =>
      let word := ((← get).texts.get? text).getD []
      let written ← expandText room word
      modify fun machine => machine.bindStream fd { channel := .buffer written }
      redirect room rest
    | .file fd operator target =>
      let target ← expandText room target
      let isNumber := target ≠ "" && target.toList.all Char.isDigit
      if (operator = ">&" || operator = "<&") && target ≠ "-" && !isNumber then
        modify fun machine => { machine with line := machine.line + 1 }
        Exec.fail "Syntax error: Bad fd number"
      match openStream (← get) fd operator target with
      | .ok machine =>
        set machine
        redirect room rest
      | .error what =>
        Act.complain what 2
        return false

/-- Runs a command. One that is tested can fail without an end to the script. -/
def run : Nat → Bool → Command → Exec Unit
  | 0, _, _ => throw .exit
  | room + 1, tested, command => do
    if (← get).isOn 'n' then return
    match command with
    | .simple line assignments words redirections =>
      modify fun machine => { machine with line, outputStatus := 0 }
      simple room tested assignments words redirections
      stopOnFailure tested
    | .redirected line body redirections =>
      modify fun machine => { machine with line }
      withOpened (← get).opened do
        if ← redirect room redirections then run room tested body
        else stopOnFailure tested
    | .pipe stages =>
      pipe room tested stages none
      stopOnFailure tested
    | .negate command =>
      run room true command
      modify fun machine => { machine with status := if machine.status = 0 then 1 else 0 }
    | .both first second =>
      run room true first
      if (← get).status = 0 then run room tested second
    | .either first second =>
      run room true first
      if (← get).status ≠ 0 then run room tested second
    | .sequence [] => Act.setStatus 0
    | .sequence commands =>
      for command in commands do
        run room tested command
    | .background command =>
      apart do
        modify fun machine => machine.bindStream 0 { channel := .nothing }
        inPlace room true command
      modify fun machine => { machine with jobStatus? := some machine.status, status := 0 }
    | .subshell body =>
      apart (inPlace room tested body)
      stopOnFailure tested
    | .branch condition yes no =>
      run room true condition
      if (← get).status = 0 then run room tested yes else run room tested no
    | .loop stopsOnSuccess condition body =>
      let outer := (← get).loops
      modify fun machine => { machine with loops := outer + 1 }
      Exec.finally_ (loop room tested stopsOnSuccess condition body 0)
        (modify fun machine => { machine with loops := outer })
    | .forEach line name words? body =>
      modify fun machine => { machine with line }
      let words ←
        match words? with
        | some words => (List.flatten <$> words.mapM fun word => expandWord room word)
        | none => pure (← get).arguments
      let outer := (← get).loops
      modify fun machine => { machine with loops := outer + 1 }
      Exec.finally_ (forEach room tested name words body)
        (modify fun machine => { machine with loops := outer })
    | .choose line word cases =>
      modify fun machine => { machine with line }
      let text ← expandText room word
      choose room tested text.toList cases
    | .define name body =>
      modify fun machine =>
        { machine with functions := machine.functions.insert name body, status := 0 }

def pipe : Nat → Bool → List Command → Option Nat → Exec Unit
  | 0, _, _, _ => throw .exit
  | _, _, [], _ => return
  | room + 1, tested, stage :: rest, input? => do
    let output := (← get).nextStream
    apart do
      modify fun machine =>
        let machine :=
          if rest.isEmpty then machine else machine.bindStream 1 { channel := .buffer "" }
        match input? with
        | some number => { machine with opened := machine.opened.insert 0 number }
        | none => machine
      inPlace room tested stage
    pipe room tested rest (some output)

def turn : Nat → Bool → Command → Exec Bool
  | 0, _, _ => throw .exit
  | room + 1, tested, body =>
    ExceptT.mk do
      match ← (run room tested body).run with
      | .ok () | .error (.continue 1) => return .ok true
      | .error (.break 1) => return .ok false
      | .error (.break loops) => return .error (.break (loops - 1))
      | .error (.continue loops) => return .error (.continue (loops - 1))
      | .error stop => return .error stop

def loop : Nat → Bool → Bool → Command → Command → Nat → Exec Unit
  | 0, _, _, _, _, _ => throw .exit
  | room + 1, tested, stopsOnSuccess, condition, body, status => do
    if ← turn room true condition then
      if ((← get).status = 0) = stopsOnSuccess then Act.setStatus status
      else if ← turn room tested body then
        loop room tested stopsOnSuccess condition body (← get).status

def forEach : Nat → Bool → String → List String → Command → Exec Unit
  | 0, _, _, _, _ => throw .exit
  | room + 1, tested, name, words, body => do
    match words with
    | [] => Act.setStatus 0
    | [word] =>
      Exec.assign name word
      discard (turn room tested body)
    | word :: rest =>
      Exec.assign name word
      if ← turn room tested body then forEach room tested name rest body

def choose : Nat → Bool → List Char → List (List Word × Command) → Exec Unit
  | 0, _, _, _ => throw .exit
  | _, _, _, [] => Act.setStatus 0
  | room + 1, tested, text, (patterns, body) :: rest => do
    if ← fitsOne room text patterns then run room tested body
    else choose room tested text rest

def fitsOne : Nat → List Char → List Word → Exec Bool
  | 0, _, _ => throw .exit
  | _, _, [] => return false
  | room + 1, text, pattern :: rest => do
    let pattern ← expandField room pattern
    if Glob.matchesAll (Glob.ofChars pattern) text then return true
    else fitsOne room text rest

/-- Runs a command of one line: what stands before it is assigned for its time, or for good if there is
no command or if the command is a special one. -/
def simple : Nat → Bool → List (String × Word) → List Word → List Redirection → Exec Unit
  | 0, _, _, _, _ => throw .exit
  | room + 1, tested, assignments, words, redirections => do
    let words ← expandWords room words []
    let opened := (← get).opened
    let special := words.head?.any Builtin.special.contains
    if ← redirect room redirections then
      let assigned ← assignments.mapM fun (name, value) => return (name, ← expandText room value)
      if (← get).isOn 'x' then
        let shown := assigned.map (fun (name, value) => name ++ "=" ++ value) ++ words
        modify fun machine =>
          let traced := ({ machine with opened }).emit 2 ("+ " ++ Text.join " " shown ++ "\n")
          { traced with opened := machine.opened }
      match words with
      | [] =>
        withOpened opened do
          for (name, value) in assigned do
            Exec.assign name value
          modify fun machine => { machine with status := machine.outputStatus }
      | name :: arguments =>
        if special then
          for (name, value) in assigned do
            Exec.assign name value
            modify fun machine => { machine with exported := addNew machine.exported name }
          if name = "exec" && arguments.isEmpty then Act.setStatus 0
          else withOpened opened (invoke room tested name arguments)
        else
          withOpened opened do
            let before ← get
            let names := assigned.map Prod.fst
            for (name, value) in assigned do
              Exec.assign name value
              modify fun machine => { machine with exported := addNew machine.exported name }
            Exec.finally_ (invoke room tested name arguments) do
              modify fun machine =>
                let kept := machine.values.filter fun name _ => !names.contains name
                let back := before.values.entries.filter fun entry => names.contains entry.1
                let fresh := names.filter fun name => !before.exported.contains name
                { machine with
                  values := kept.insertAll back
                  exported := machine.exported.filter fun name => !fresh.contains name }
    else
      modify fun machine => { machine with opened }
      if special then throw .fault

def invoke : Nat → Bool → String → List String → Exec Unit
  | 0, _, _, _ => throw .exit
  | room + 1, tested, name, arguments => do
    let machine ← get
    if Builtin.special.contains name then builtin room tested name arguments
    else
      match machine.functions.get? name with
      | some body => call room tested body arguments
      | none => plain room tested name arguments

def plain : Nat → Bool → String → List String → Exec Unit
  | 0, _, _, _ => throw .exit
  | room + 1, tested, name, arguments => do
    if name = "command" then
      match arguments with
      | "-v" :: names => describe false (names.take 1)
      | "-V" :: names => describe true (names.take 1)
      | arguments =>
        match arguments.dropWhile fun argument => argument = "-p" || argument = "--" with
        | [] => Act.setStatus 0
        | name :: arguments => plain room tested name arguments
    else if Builtin.special.contains name || Builtin.regular.contains name then
      ExceptT.mk do
        match ← (builtin room tested name arguments).run with
        | .error .fault => return .ok ()
        | result => return result
    else launch room name arguments

def describe (full : Bool) (names : List String) : Exec Unit := do
  Act.setStatus 0
  for name in names do
    let machine ← get
    let kind? : Option (String × String) :=
      if reservedWords.contains name then some (name, "a shell keyword")
      else if Builtin.special.contains name then some (name, "a special shell builtin")
      else if (machine.functions.get? name).isSome then some (name, "a shell function")
      else if Builtin.regular.contains name then some (name, "a shell builtin")
      else if isProgram name then some ("/usr/bin/" ++ name, "/usr/bin/" ++ name)
      else if name.toList.contains '/' && machine.isPresent name then some (name, name)
      else none
    match kind? with
    | some (short, long) => Builtin.put (if full then s!"{name} is {long}\n" else short ++ "\n")
    | none =>
      if full then Builtin.put s!"{name}: not found\n"
      Act.setStatus 127

def call : Nat → Bool → Command → List String → Exec Unit
  | 0, _, _, _ => throw .exit
  | room + 1, tested, body, arguments => do
    let before ← get
    set { before with
      arguments, loops := 0, kept := ∅ :: before.kept, optionPlace := 1, optionIndex := 0 }
    let step : Exec Unit := ExceptT.mk do
      match ← (run room tested body).run with
      | .error .leave => return .ok ()
      | result => return result
    Exec.finally_ step do
      modify fun machine =>
        let values := (machine.kept.headD ∅).entries.foldl (fun values (name, old?) =>
          match old? with
          | some old => Table.insert values name old
          | none => values.filter fun other _ => other ≠ name) machine.values
        { machine with
          values, arguments := before.arguments, loops := before.loops, kept := before.kept
          optionPlace := before.optionPlace, optionIndex := before.optionIndex }

def builtin : Nat → Bool → String → List String → Exec Unit
  | 0, _, _, _ => throw .exit
  | room + 1, tested, name, arguments => do
    let before := (← get).title
    let status := (← get).status
    modify fun machine => { machine with title := name }
    let leaving (stop : Nat → Stop) : Exec Unit := do
      let status ←
        match arguments with
        | [] => pure ((← get).finalStatus?.getD status)
        | written :: _ => (· % 256) <$> Exec.count written
      Act.setStatus status
      throw (stop status)
    let leavingLoops (stop : Nat → Stop) : Exec Unit := do
      let count ←
        match arguments with
        | [] => pure 1
        | written :: _ => Exec.count written
      if count = 0 then Exec.fail "Illegal number: 0"
      Act.setStatus 0
      let loops := (← get).loops
      if 0 < loops then throw (stop (min count loops))
    let step : Exec Unit := do
      match name with
      | "wait" => Builtin.wait arguments
      | "kill" =>
        Act.setStatus 0
        Builtin.kill arguments
      | "false" => Act.setStatus 1
      | "break" => leavingLoops .break
      | "continue" => leavingLoops .continue
      | "exit" => leaving fun _ => .exit
      | "return" => leaving fun _ => .leave
      | "eval" => source room tested (Text.join " " arguments)
      | "." =>
        match arguments with
        | [] => Act.setStatus 0
        | file :: _ => takeIn room file
      | "exec" =>
        match arguments.dropWhile (· = "--") with
        | [] => Act.setStatus 0
        | name :: arguments =>
          modify fun machine => { machine with farewell? := none }
          launch room name arguments
          throw .exit
      | "echo" =>
        Act.setStatus 0
        Builtin.put (Printing.echo arguments)
      | "printf" =>
        Act.setStatus 0
        Builtin.printf arguments
      | "test" | "[" => Builtin.condition name arguments
      | "cd" =>
        Act.setStatus 0
        Builtin.cd arguments
      | "pwd" =>
        Act.setStatus 0
        discard (Builtin.takeOptions ['L', 'P'] arguments)
        Builtin.put ("/" ++ toBytes (← get).folder ++ "\n")
      | "read" => Builtin.read arguments
      | "export" | "readonly" =>
        Act.setStatus 0
        Builtin.declare name arguments
      | "unset" =>
        Act.setStatus 0
        Builtin.unset arguments
      | "set" =>
        Act.setStatus 0
        match ← Builtin.setOptions arguments with
        | some arguments =>
          modify fun machine => { machine with arguments, optionPlace := 1, optionIndex := 0 }
        | none => pure ()
      | "shift" =>
        Act.setStatus 0
        Builtin.shift arguments
      | "local" =>
        Act.setStatus 0
        Builtin.localNames arguments
      | "getopts" => Builtin.getopts arguments
      | "trap" =>
        Act.setStatus 0
        Builtin.trap arguments
      | "umask" =>
        Act.setStatus 0
        if arguments.isEmpty then Builtin.put "0022\n"
      | "type" => describe true arguments
      | _ => Act.setStatus 0
    Exec.finally_ step (modify fun machine => { machine with title := before })

def source : Nat → Bool → String → Exec Unit
  | 0, _, _ => throw .exit
  | room + 1, tested, text => do
    let machine ← get
    let program := Program.readFrom machine.nextText text
    set { machine with
      texts := machine.texts.insertAll program.texts.entries, nextText := program.nextText }
    if program.commands.isEmpty && program.fault?.isNone then Act.setStatus 0
    for command in program.commands do
      run room tested command
    match program.fault? with
    | none => return
    | some (line, what) =>
      modify fun machine => { machine with line }
      Exec.fail ("Syntax error: " ++ what)

def takeIn : Nat → String → Exec Unit
  | 0, _ => throw .exit
  | room + 1, file => do
    if !file.toList.contains '/' then Exec.fail s!"{file}: not found"
    match (← get).readFile file with
    | .error .isFolder => Act.setStatus 0
    | .error error => Exec.fail s!"cannot open {file}: {openError false error}"
    | .ok text =>
      modify fun machine => { machine with title := file }
      ExceptT.mk do
        match ← (source room false text).run with
        | .error .leave => return .ok ()
        | result => return result

def launch : Nat → String → List String → Exec Unit
  | 0, _, _ => throw .exit
  | room + 1, name, arguments => do
    let machine ← get
    if name = "" then Act.complain ": Permission denied" 127
    else
      match Launch.of machine name arguments with
      | .ok found => start room found
      | .error .notFound | .error .notFolder => Act.complain s!"{name}: not found" 127
      | .error .nameTooLong => Act.complain s!"{name}: {reason .nameTooLong}" 127
      | .error .notExecutable =>
        start room { program := "sh", title := "/bin/sh", arguments := name :: arguments }
      | .error error => Act.complain s!"{name}: {reason error}" 126

def start : Nat → Launch → Act Unit
  | 0, _ => return
  | room + 1, found => do
    match Tool.known.lookup found.program with
    | some tool => tool found.title found.arguments
    | none =>
      match Runner.known.lookup found.program with
      | some runner => runner (start room) found.title found.arguments
      | none =>
        let machine ← get
        let exported := machine.values.filter fun name _ => machine.exported.contains name
        let inherited :=
          exported.insertAll [("IFS", " \t\n"), ("OPTIND", "1"), ("PS4", "+ ")]
        apart do
          modify fun machine =>
            { disk := machine.disk, streams := machine.streams, nextStream := machine.nextStream
              opened := machine.opened, folder := machine.folder, values := inherited
              exported := machine.exported, name := found.title, line := 0 }
          Exec.finally_ (shell room found.arguments none) (farewell room)

def shell : Nat → List String → Option String → Exec Unit
  | 0, _, _ => throw .exit
  | room + 1, arguments, command? => do
    match arguments with
    | "-c" :: rest => shellText room rest
    | "-s" :: rest =>
      modify fun machine => { machine with arguments := rest }
      source room false (← Act.takeAll 0)
    | argument :: rest =>
      match argument.toList with
      | ['-', '-'] | ['-'] => shellFile room rest
      | sign :: letters =>
        if (sign = '-' || sign = '+') && !letters.isEmpty then
          if letters.contains 'c' then
            discard (Builtin.setOptions [String.ofList (sign :: letters.filter (· ≠ 'c'))])
            shellText room rest
          else if letters = ['o'] then
            discard (Builtin.setOptions (argument :: rest.take 1))
            shell room (rest.drop 1) command?
          else
            discard (Builtin.setOptions [argument])
            shell room rest command?
        else shellFile room arguments
      | [] => shellFile room arguments
    | [] => shellFile room []

def shellText : Nat → List String → Exec Unit
  | 0, _ => throw .exit
  | room + 1, arguments => do
    match arguments with
    | [] => Exec.fail "-c requires an argument"
    | text :: rest =>
      modify fun machine =>
        { machine with name := rest.headD machine.name, arguments := rest.drop 1 }
      source room false text

def shellFile : Nat → List String → Exec Unit
  | 0, _ => throw .exit
  | room + 1, arguments => do
    match arguments with
    | [] => source room false (← Act.takeAll 0)
    | file :: rest =>
      match (← get).readFile file with
      | .error .isFolder => Act.setStatus 0
      | .error error => Exec.fail s!"cannot open {file}: {openError false error}"
      | .ok text =>
        modify fun machine => { machine with name := file, arguments := rest }
        source room false text

end

end UefiBuild.Script
