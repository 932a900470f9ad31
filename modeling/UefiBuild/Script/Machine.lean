import UefiBuild.Disk
import UefiBuild.Script.Bytes
import UefiBuild.Script.Tree

namespace UefiBuild.Script

inductive Channel
  | nothing
  | file (place : List String)
  | buffer (written : String)

structure Stream where
  channel : Channel
  position : Nat := 0
  appends : Bool := false

/-- What a script can see and change while it runs. All its texts are texts of bytes. -/
structure Machine where
  disk : Disk := {}
  streams : Table Nat Stream := ∅
  nextStream : Nat := 0
  opened : Table Nat Nat := ∅
  folder : String := ""
  name : String := "sh"
  arguments : List String := []
  values : Table String String := ∅
  exported : List String := []
  locked : List String := []
  functions : Table String Command := ∅
  texts : Table Nat Word := ∅
  nextText : Nat := 0
  options : List Char := []
  status : Nat := 0
  outputStatus : Nat := 0
  line : Nat := 1
  title : String := ""
  farewell? : Option String := none
  finalStatus? : Option Nat := none
  jobStatus? : Option Nat := none
  optionPlace : Nat := 1
  optionIndex : Nat := 0
  kept : List (Table String (Option String)) := []
  loops : Nat := 0

abbrev Act (α : Type) : Type := StateM Machine α

def reason : FileError → String
  | .notFound => "No such file or directory"
  | .notExecutable => "Exec format error"
  | .permissionDenied => "Permission denied"
  | .notFolder => "Not a directory"
  | .isFolder => "Is a directory"
  | .nameTooLong => "File name too long"
  | .notText | .nulInPath | .nulInCommand => "Invalid argument"

namespace Machine

def path (machine : Machine) (name : String) : HostPath :=
  let given := ofBytes name
  if given = "" ∨ machine.folder = "" then ⟨given⟩ else HostPath.join ⟨machine.folder⟩ given

def contentAt (machine : Machine) (place : List String) : String :=
  match machine.disk.entry? place with
  | some (.file content _) => ofByteList content.bytes
  | _ => ""

def setContentAt (machine : Machine) (place : List String) (written : String) : Machine :=
  let executable :=
    match machine.disk.entry? place with
    | some (.file _ executable) => executable
    | _ => false
  let entry : DiskEntry := .file (.ofBytes (byteList written)) executable
  { machine with disk := ⟨machine.disk.entries.insert place entry⟩ }

def contentOf (machine : Machine) (stream : Stream) : String :=
  match stream.channel with
  | .nothing => ""
  | .file place => machine.contentAt place
  | .buffer written => written

def streamOf? (machine : Machine) (fd : Nat) : Option (Nat × Stream) := do
  let number ← machine.opened.get? fd
  return (number, ← machine.streams.get? number)

def overwrite (old : String) (position : Nat) (written : String) : String :=
  let cs := old.toList
  let before := cs.take position
  let gap := List.replicate (position - before.length) '\x00'
  String.ofList (before ++ gap ++ written.toList ++ cs.drop (position + written.length))

def emit (machine : Machine) (fd : Nat) (written : String) : Machine :=
  match machine.streamOf? fd with
  | none => machine
  | some (number, stream) =>
    match stream.channel with
    | .nothing => machine
    | .buffer old =>
      let stream := { stream with channel := .buffer (old ++ written) }
      { machine with streams := machine.streams.insert number stream }
    | .file place =>
      let old := machine.contentAt place
      let position := if stream.appends then old.length else stream.position
      let stream := { stream with position := position + written.length }
      { machine.setContentAt place (overwrite old position written) with
        streams := machine.streams.insert number stream }

/-- A folder can be opened, but there is nothing to read. -/
def leadsToFolder (machine : Machine) (fd : Nat) : Bool :=
  match machine.streamOf? fd with
  | some (_, { channel := .file place, .. }) =>
    (machine.disk.entry? place).any DiskEntry.isFolder
  | _ => false

def unread (machine : Machine) (fd : Nat) : List Char :=
  match machine.streamOf? fd with
  | none => []
  | some (_, stream) => (machine.contentOf stream).toList.drop stream.position

def skip (machine : Machine) (fd count : Nat) : Machine :=
  match machine.streamOf? fd with
  | none => machine
  | some (number, stream) =>
    let stream := { stream with position := stream.position + count }
    { machine with streams := machine.streams.insert number stream }

def bindStream (machine : Machine) (fd : Nat) (stream : Stream) : Machine :=
  { machine with
    streams := machine.streams.insert machine.nextStream stream
    opened := machine.opened.insert fd machine.nextStream
    nextStream := machine.nextStream + 1 }

def close (machine : Machine) (fd : Nat) : Machine :=
  { machine with opened := machine.opened.filter fun other _ => other ≠ fd }

def standing? (name : String) : Option (Option Nat) :=
  match name with
  | "/dev/null" => some none
  | "/dev/stdin" | "/dev/fd/0" => some (some 0)
  | "/dev/stdout" | "/dev/fd/1" => some (some 1)
  | "/dev/stderr" | "/dev/fd/2" => some (some 2)
  | _ => none

def readFile (machine : Machine) (name : String) : Except FileError String :=
  match standing? name with
  | some _ => .ok ""
  | none => (machine.disk.content (machine.path name)).map fun content => ofByteList content.bytes

def writeFile (machine : Machine) (name written : String) : Except FileError Machine :=
  match standing? name with
  | some none => .ok machine
  | some (some fd) => .ok (machine.emit fd written)
  | none =>
    (machine.disk.write (machine.path name) (.ofBytes (byteList written))).map fun disk =>
      { machine with disk }

def isFolder (machine : Machine) (name : String) : Bool := machine.disk.isFolder (machine.path name)

def isPresent (machine : Machine) (name : String) : Bool :=
  (standing? name).isSome || machine.disk.present (machine.path name)

def namesIn (machine : Machine) (name : String) : List String :=
  match machine.disk.locate (machine.path (if name = "" then "." else name)) with
  | .error _ => []
  | .ok place =>
    let inside := machine.disk.entries.keys.filterMap fun other =>
      if other.dropLast = place then other.getLast?.map toBytes else none
    inside.mergeSort fun a b => decide (a ≤ b)

def value? (machine : Machine) (name : String) : Option String := machine.values.get? name

def isOn (machine : Machine) (option : Char) : Bool := machine.options.contains option

end Machine

namespace Act

def emit (fd : Nat) (written : String) : Act Unit := modify fun machine => machine.emit fd written

def setStatus (status : Nat) : Act Unit := modify fun machine => { machine with status }

def report (tool what : String) (status : Nat) : Act Unit := do
  emit 2 s!"{tool}: {what}\n"
  setStatus status

def takeAll (fd : Nat) : Act String := do
  let cs := (← get).unread fd
  modify fun machine => machine.skip fd cs.length
  return String.ofList cs

def complain (what : String) (status : Nat) : Act Unit := do
  let machine ← get
  let title := if machine.title = "" then "" else machine.title ++ ": "
  emit 2 s!"{machine.name}: {machine.line}: {title}{what}\n"
  setStatus status

end Act

end UefiBuild.Script
