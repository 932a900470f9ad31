import UefiBuild.Script.Exec

namespace UefiBuild.Script

def withOpened {α : Type} (opened : Table Nat Nat) (step : Exec α) : Exec α :=
  Exec.finally_ step (modify fun machine => { machine with opened })

/-- Runs a part of a script as if on a machine of its own. Only what it does to files and streams, and
its status, can be seen afterwards. -/
def apart (step : Exec Unit) : Act Unit := do
  let before ← get
  set { before with farewell? := none }
  discard step.run
  modify fun after =>
    { before with
      disk := after.disk, streams := after.streams, nextStream := after.nextStream
      status := after.status }

def openError (creates : Bool) (error : FileError) : String :=
  match error with
  | .notFound | .notFolder => if creates then "Directory nonexistent" else "No such file"
  | error => reason error

def shareStream (machine : Machine) (fd : Nat) (other : Nat) : Except String Machine :=
  match machine.opened.get? other with
  | none => .error s!"{other}: Bad file descriptor"
  | some number => .ok { machine with opened := machine.opened.insert fd number }

def openFile (machine : Machine) (fd : Nat) (operator target : String) : Except String Machine :=
  let path := machine.path target
  if operator = "<" then
    match machine.disk.find path with
    | .ok (place, _) => .ok (machine.bindStream fd { channel := .file place })
    | .error error => .error s!"cannot open {target}: {openError false error}"
  else if operator = ">" && machine.isOn 'C' && (machine.disk.content path).isOk then
    .error s!"cannot create {target}: File exists"
  else
    let keeps := operator = ">>" || operator = "<>"
    let before := if keeps then (machine.disk.content path).toOption else none
    let opened : Except FileError Machine := do
      let disk ← machine.disk.write path (before.getD (.text ""))
      let stream : Stream := { channel := .file (← disk.locate path), appends := operator = ">>" }
      return ({ machine with disk }).bindStream fd stream
    opened.mapError fun error => s!"cannot create {target}: {openError true error}"

def openStream (machine : Machine) (fd : Nat) (operator target : String) : Except String Machine :=
  if operator = ">&" || operator = "<&" then
    if target = "-" then .ok (machine.close fd)
    else shareStream machine fd (target.toNat?.getD 0)
  else
    match Machine.standing? target with
    | some none => .ok (machine.bindStream fd { channel := .nothing })
    | some (some other) =>
      (shareStream machine fd other).mapError fun _ => s!"cannot open {target}: No such file"
    | none => openFile machine fd operator target

end UefiBuild.Script
