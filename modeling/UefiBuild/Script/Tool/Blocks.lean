import UefiBuild.Script.Sum
import UefiBuild.Script.Tool.Options

namespace UefiBuild.Script.Tool

def byteCount? (s : String) : Option Nat :=
  let digits := s.toList.takeWhile Char.isDigit
  let n := (Sum.ofDigits 10 digits).toNat
  if digits = [] then none
  else
    match s.toList.drop digits.length with
    | [] | ['c'] => some n
    | ['w'] => some (2 * n)
    | ['b'] => some (512 * n)
    | ['k', 'B'] => some (1000 * n)
    | ['k'] | ['K'] => some (1024 * n)
    | ['M'] => some (1024 * 1024 * n)
    | _ => none

def dd : Tool := fun title arguments => do
  Act.setStatus 0
  let value? (name : String) : Option String :=
    arguments.findSome? fun argument => Text.afterStart? (name ++ "=") argument
  let number (name : String) (usual : Nat) : Nat := ((value? name).bind byteCount?).getD usual
  let size := number "bs" 512
  let options := Text.split ',' ((value? "conv").getD "")
  let skipped := number "skip" 0 * size
  let count? := (value? "count").map fun _ => number "count" 0 * size
  match ← inputFor (count?.map (· + skipped)) ((value? "if").getD "-") with
  | .error error =>
    let name := (value? "if").getD ""
    Act.report title s!"failed to open '{name}': {reason error}" 1
  | .ok text =>
    let left := text.toList.drop skipped
    let copied := String.ofList (count?.elim left fun count => left.take count)
    let machine ← get
    let written : Except FileError Machine :=
      match value? "of" with
      | none => .ok (machine.emit 1 copied)
      | some target =>
        let before := (machine.readFile target).toOption.getD ""
        let start := number "seek" 0 * size
        let base :=
          if options.contains "notrunc" then before else String.ofList (before.toList.take start)
        machine.writeFile target (Machine.overwrite base start copied)
    match written with
    | .error error =>
      let name := (value? "of").getD ""
      Act.report title s!"failed to open '{name}': {reason error}" 1
    | .ok machine =>
      set machine
      let whole := copied.length / size
      let part := if copied.length % size = 0 then 0 else 1
      let status := (value? "status").getD ""
      if status ≠ "none" then
        Act.emit 2 s!"{whole}+{part} records in\n{whole}+{part} records out\n"

def truncate : Tool :=
  Tool.withOptions
    { plain := ['c', 'o'], valued := ['s', 'r'], long := [("size", 's'), ("no-create", 'c')] } 1
    fun title given => do
      let asked := (given.value? 's').getD ""
      let (grows, digits) :=
        match Text.afterStart? "+" asked with
        | some digits => (true, digits)
        | none => (false, asked)
      match byteCount? digits with
      | none =>
        if given.has 's' then Act.report title s!"Invalid number: '{asked}'" 1
        else Tool.misused title "you must specify either '--size' or '--reference'" 1
      | some count =>
        if given.operands.isEmpty then Tool.misused title "missing file operand" 1
        for name in given.operands do
          let machine ← get
          if machine.isPresent name || !given.has 'c' then
            let before := ((machine.readFile name).toOption.getD "").toList
            let size := if grows then before.length + count else count
            let cs := before.take size ++ List.replicate (size - before.length) '\x00'
            match machine.writeFile name (String.ofList cs) with
            | .ok machine => set machine
            | .error error =>
              Act.report title s!"cannot open '{name}' for writing: {reason error}" 1

end UefiBuild.Script.Tool
