import UefiBuild.Script.Machine

namespace UefiBuild.Script

structure OptionForm where
  plain : List Char := []
  valued : List Char := []
  long : List (String × Char) := []

structure Given where
  flags : List (Char × String) := []
  operands : List String := []

namespace Given

def has (given : Given) (letter : Char) : Bool := given.flags.any fun flag => flag.1 = letter

def value? (given : Given) (letter : Char) : Option String :=
  (given.flags.filter fun flag => flag.1 = letter).getLast?.map Prod.snd

def values (given : Given) (letter : Char) : List String :=
  (given.flags.filter fun flag => flag.1 = letter).map Prod.snd

end Given

namespace OptionForm

def readLetters (form : OptionForm) : List Char → List String →
    Except String (List (Char × String) × List String)
  | [], rest => .ok ([], rest)
  | c :: cs, rest =>
    if form.valued.contains c then
      if !cs.isEmpty then .ok ([(c, String.ofList cs)], rest)
      else
        match rest with
        | value :: rest => .ok ([(c, value)], rest)
        | [] => .error s!"option requires an argument -- '{c}'"
    else if form.plain.contains c then do
      let (flags, rest) ← form.readLetters cs rest
      return ((c, "") :: flags, rest)
    else .error s!"invalid option -- '{c}'"

def readLong (form : OptionForm) (argument : String) (rest : List String) :
    Except String (List (Char × String) × List String) :=
  let (name, value?) : String × Option String :=
    match Text.cutAtFirst? '=' argument with
    | some (name, value) => (name, some value)
    | none => (argument, none)
  match form.long.lookup name with
  | none => .error s!"unrecognized option '--{argument}'"
  | some c =>
    match value? with
    | some value => .ok ([(c, value)], rest)
    | none =>
      if form.valued.contains c then
        match rest with
        | value :: rest => .ok ([(c, value)], rest)
        | [] => .error s!"option '--{name}' requires an argument"
      else .ok ([(c, "")], rest)

def readFrom (form : OptionForm) : Nat → List String → Except String Given
  | 0, _ | _, [] => .ok {}
  | room + 1, argument :: rest =>
    match argument.toList with
    | ['-', '-'] => .ok { operands := rest }
    | '-' :: '-' :: name => do
      let (flags, rest) ← form.readLong (String.ofList name) rest
      let given ← form.readFrom room rest
      return { given with flags := flags ++ given.flags }
    | '-' :: c :: cs => do
      let (flags, rest) ← form.readLetters (c :: cs) rest
      let given ← form.readFrom room rest
      return { given with flags := flags ++ given.flags }
    | _ => do
      let given ← form.readFrom room rest
      return { given with operands := argument :: given.operands }

def read (form : OptionForm) (arguments : List String) : Except String Given :=
  form.readFrom (arguments.length + 1) arguments

end OptionForm

abbrev Tool : Type := String → List String → Act Unit

namespace Tool

def misused (title what : String) (status : Nat) : Act Unit := do
  Act.report title what status
  Act.emit 2 s!"Try '{title} --help' for more information.\n"

def withOptions (form : OptionForm) (badStatus : Nat) (body : String → Given → Act Unit) : Tool :=
  fun title arguments => do
    Act.setStatus 0
    match form.read arguments with
    | .error what => misused title what badStatus
    | .ok given => body title given

def shownName (name : String) : String :=
  let isPlain (c : Char) : Bool := c.isAlphanum || "_-./+:,@%^=".toList.contains c || 127 < c.toNat
  if name ≠ "" && name.toList.all isPlain then name else s!"'{name}'"

def input (name : String) : Act (Except FileError String) := do
  let machine ← get
  if name = "-" || Machine.standing? name = some (some 0) then
    if machine.leadsToFolder 0 then return .error .isFolder
    else return .ok (← Act.takeAll 0)
  else return machine.readFile name

/-- What a tool reads under a name, of which it needs so much. A name can stand for zeros without end. -/
def inputFor (needed? : Option Nat) (name : String) : Act (Except FileError String) := do
  match needed? with
  | some needed =>
    if name = "/dev/zero" then return .ok (String.ofList (List.replicate needed '\x00'))
    else input name
  | none => input name

def inputs (title : String) (complaint : String → FileError → String) (status : Nat)
    (names : List String) : Act (List (String × String)) := do
  let found ← (if names = [] then ["-"] else names).mapM fun name => do
    match ← input name with
    | .ok text => return some (name, text)
    | .error error =>
      Act.report title (complaint name error) status
      return none
  return found.filterMap id

def plainComplaint (name : String) (error : FileError) : String :=
  s!"{shownName name}: {reason error}"

def openComplaint (name : String) (error : FileError) : String :=
  if error = .isFolder then s!"error reading '{name}': {reason error}"
  else s!"cannot open '{name}' for reading: {reason error}"

end Tool

def linesIn (text : String) : List String :=
  match (Text.split '\n' text).reverse with
  | "" :: lines => lines.reverse
  | lines => lines.reverse

def ofLines (lines : List String) : String := Text.join "" (lines.map (· ++ "\n"))

end UefiBuild.Script
