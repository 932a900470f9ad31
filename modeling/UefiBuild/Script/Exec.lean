import UefiBuild.Script.Field

namespace UefiBuild.Script

inductive Stop
  | exit
  | fault
  | leave
  | break (loops : Nat)
  | continue (loops : Nat)

/-- A step of a script. What has been done stays done where it is cut short. -/
abbrev Exec (α : Type) : Type := ExceptT Stop (StateM Machine) α

namespace Exec

def fail {α : Type} (what : String) : Exec α := do
  Act.complain what 2
  throw .fault

def finally_ {α : Type} (step : Exec α) (after : Act Unit) : Exec α :=
  ExceptT.mk do
    let result ← step.run
    after
    return result

def assign (name value : String) : Exec Unit := do
  let machine ← get
  if machine.locked.contains name then fail s!"{name}: is read only"
  let exported :=
    if machine.isOn 'a' then addNew machine.exported name else machine.exported
  let optionPlace := if name = "OPTIND" then (value.toNat?.getD 1) else machine.optionPlace
  let optionIndex := if name = "OPTIND" then 0 else machine.optionIndex
  set { machine with
    values := machine.values.insert name value, exported, optionPlace, optionIndex }

def count (s : String) : Exec Nat := do
  let cs := s.toList
  let n := cs.foldl (fun n c => 10 * n + (c.toNat - '0'.toNat)) 0
  if cs ≠ [] && cs.all Char.isDigit && n < 2147483648 then return n
  else fail s!"Illegal number: {s}"

def checkName (written name : String) : Exec Unit := do
  if !isName name.toList then fail s!"{written}: bad variable name"

end Exec

namespace Machine

def separators (machine : Machine) : List Char :=
  ((machine.value? "IFS").map String.toList).getD Field.defaultSeparators

def joint (machine : Machine) : String :=
  match machine.value? "IFS" with
  | none => " "
  | some s => String.ofList (s.toList.take 1)

def ownNumber : String := "1000"

def jobNumber : String := "1001"

def parameter? (machine : Machine) (name : String) : Option String :=
  match name with
  | "@" | "*" => some (Text.join machine.joint machine.arguments)
  | "#" => some (toString machine.arguments.length)
  | "?" => some (toString machine.status)
  | "-" => some (String.ofList machine.options)
  | "$" => some ownNumber
  | "!" => machine.jobStatus?.map fun _ => jobNumber
  | "0" => some machine.name
  | name =>
    if name.toList.all Char.isDigit then machine.arguments[(name.toNat?.getD 0) - 1]?
    else machine.value? name

end Machine

end UefiBuild.Script
