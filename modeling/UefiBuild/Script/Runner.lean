import UefiBuild.Script.Arguments
import UefiBuild.Script.Awk.Run
import UefiBuild.Script.Launch

namespace UefiBuild.Script

abbrev Runner : Type := (Launch → Act Unit) → Tool

namespace Runner

def start (run : Launch → Act Unit) (title saying name : String) (arguments : List String) :
    Act Unit := do
  match Launch.of (← get) name arguments with
  | .ok found => run found
  | .error error =>
    let status := if error = .notFound || error = .notFolder then 127 else 126
    Act.report title s!"{saying}'{name}': {reason error}" status

def withExported (change : Machine → Machine) (step : Act Unit) : Act Unit := do
  let before ← get
  modify change
  step
  modify fun machine => { machine with values := before.values, exported := before.exported }

def showExported : Act Unit := do
  let machine ← get
  let values := machine.values.filter fun name _ => machine.exported.contains name
  for (name, value) in values.entries do
    Act.emit 1 s!"{name}={value}\n"
  Act.setStatus 0

def lineWords (line : String) : List String := inputWords (2 * line.length + 2) line.toList none

def envFrom (run : Launch → Act Unit) (title : String) : List String → Act Unit
  | "-i" :: rest | "-" :: rest =>
    withExported (fun machine => { machine with exported := [] }) (envFrom run title rest)
  | "--" :: rest => envFrom run title rest
  | "-u" :: name :: rest =>
    withExported (fun machine => { machine with exported := machine.exported.filter (· ≠ name) })
      (envFrom run title rest)
  | argument :: rest =>
    match Text.cutAtFirst? '=' argument with
    | some (name, value) =>
      withExported (fun machine =>
        { machine with
          values := machine.values.insert name value, exported := addNew machine.exported name })
        (envFrom run title rest)
    | none =>
      if Text.startsWith "-" argument then
        let letter := String.ofList ((argument.toList.drop 1).take 1)
        Tool.misused title s!"invalid option -- '{letter}'" 125
      else start run title "" argument rest
  | [] => showExported

def env : Runner := fun run title arguments =>
  let arguments :=
    match arguments with
    | "-S" :: line :: rest => lineWords line ++ rest
    | argument :: rest =>
      match Text.afterStart? "-S" argument with
      | some line => lineWords line ++ rest
      | none => arguments
    | [] => []
  envFrom run title arguments

def xargs : Runner := fun run title arguments => do
  let form : OptionForm :=
    { plain := ['0', 'r', 't', 'x'], valued := ['n', 'I', 'L', 'd', 'P', 's'] }
  let (taken, command) := form.part arguments
  Act.setStatus 0
  match form.read taken with
  | .error what => Tool.misused title what 1
  | .ok given =>
    let text ← Act.takeAll 0
    let words :=
      if given.has '0' then (Text.split '\x00' text).filter (· ≠ "")
      else if given.has 'I' then
        (linesIn text).map fun line => String.ofList (line.toList.dropWhile fun c => c = ' ' || c = '\t')
      else inputWords (2 * text.length + 2) text.toList none
    let command := if command.isEmpty then ["echo"] else command
    let calls : List (List String) :=
      match given.value? 'I' with
      | some mark => words.map fun word => command.map (Text.replace mark word)
      | none =>
        match (given.value? 'n').bind Tool.number? with
        | some length => (inRuns (max length 1) words.length words).map (command ++ ·)
        | none => if words.isEmpty && given.has 'r' then [] else [command ++ words]
    let mut failed := false
    for call in calls do
      match Launch.of (← get) (call.headD "") call.tail with
      | .ok found =>
        run found
        if (← get).status ≠ 0 then failed := true
      | .error error =>
        let name := call.headD ""
        Act.report title s!"{name}: {reason error}" 127
        return
    Act.setStatus (if failed then 123 else 0)

def passOn (form : OptionForm) (operands : Nat) (saying : String) : Runner := fun run title arguments => do
  let (options, command) := form.part arguments
  match form.read options with
  | .error what => Tool.misused title what 125
  | .ok _ =>
    match command.drop operands with
    | [] => Tool.misused title "missing operand" 125
    | name :: rest => start run title saying name rest

def room : Nat := 100000

def awkOptions : List String → Except String (List (Char × String) × List String)
  | [] => .ok ([], [])
  | argument :: rest =>
    match argument.toList with
    | ['-', '-'] => .ok ([], rest)
    | '-' :: c :: cs =>
      if c ∉ ['F', 'v', 'f', 'W'] then .error s!"not an option: {argument}"
      else if cs = [] then
        match rest with
        | value :: rest => do
          let (taken, left) ← awkOptions rest
          return ((c, value) :: taken, left)
        | [] => .error s!"option -{c} lacks argument"
      else do
        let (taken, left) ← awkOptions rest
        return ((c, String.ofList cs) :: taken, left)
    | _ => .ok ([], argument :: rest)

def awk : Runner := fun run title arguments => do
  Act.setStatus 0
  match awkOptions arguments with
  | .error what => Act.report title what 2
  | .ok (flags, rest) =>
    let given : Given := { flags, operands := rest }
    let files := given.values 'f'
    let (written, operands) := if files.isEmpty then (rest.take 1, rest.drop 1) else ([], rest)
    let mut texts := written
    for file in files do
      match ← Tool.input file with
      | .ok text => texts := texts ++ [text]
      | .error error =>
        Act.report title ("cannot open \"" ++ file ++ "\" (" ++ reason error ++ ")") 2
        return
    if texts.isEmpty then Act.setStatus 2
    else
      match Awk.Program.read (Text.join "\n" texts) with
      | .error what => Act.report title what 2
      | .ok program =>
        let separator := (given.values 'F').map fun separator =>
          ("FS", Awk.Value.text (String.ofList (Awk.meant separator.length separator.toList)))
        let assigned := (given.values 'v').filterMap Awk.assignment?
        let command (line : String) : Act Unit :=
          run { program := "sh", title := "sh", arguments := ["-c", line] }
        Awk.run program title room command (separator ++ assigned) operands

def known : List (String × Runner) :=
  [("env", env), ("xargs", xargs), ("awk", awk), ("mawk", awk),
    ("timeout", passOn { plain := ['f', 'v'], valued := ['k', 's'] } 1 "failed to run command "),
    ("nohup", passOn {} 0 "failed to run command "), ("nice", passOn { valued := ['n'] } 0 "")]

end Runner

end UefiBuild.Script
