import UefiBuild.Script.Printing
import UefiBuild.Script.Sum
import UefiBuild.Script.Tool.Places

namespace UefiBuild.Script.Tool

def succeed : Tool := fun _ _ => Act.setStatus 0

def refuse : Tool := fun _ _ => Act.setStatus 1

def tell (line : String) : Tool := fun _ _ => do
  Act.emit 1 (line ++ "\n")
  Act.setStatus 0

def identify : Tool := fun title arguments =>
  tell (if arguments.any (· ∈ ["-u", "-g"]) then "0" else "uid=0(root) gid=0(root) groups=0(root)")
    title arguments

def echo : Tool := fun _ arguments => do
  Act.setStatus 0
  let isOption (argument : String) : Bool :=
    match argument.toList with
    | '-' :: c :: cs => (c :: cs).all (· ∈ ['n', 'e', 'E'])
    | _ => false
  let options := arguments.takeWhile isOption
  let letters := options.flatMap fun option => option.toList.drop 1
  let text := Text.join " " (arguments.drop options.length)
  let works := (letters.filter (· ∈ ['e', 'E'])).getLast? = some 'e'
  let (text, stops) :=
    if works then
      let (cs, stops) := Printing.unescape (text.length + 1) text.toList
      (String.ofList cs, stops)
    else (text, false)
  Act.emit 1 (if letters.contains 'n' || stops then text else text ++ "\n")

def basename : Tool :=
  Tool.withOptions
    { plain := ['a', 'z'], valued := ['s'], long := [("multiple", 'a'), ("suffix", 's')] } 1
    fun title given => do
      let several := given.has 'a' || given.has 's'
      let (names, ending) :=
        match given.operands with
        | [name, ending] => if several then ([name, ending], "") else ([name], ending)
        | names => (names, "")
      let ending := (given.value? 's').getD ending
      if names.isEmpty then Tool.misused title "missing operand" 1
      else if 2 < given.operands.length && !several then
        let extra := given.operands.getD 2 ""
        Tool.misused title s!"extra operand '{extra}'" 1
      else
        for name in names do
          let last := lastName name
          let short := (Text.beforeEnd? ending last).getD last
          Act.emit 1 ((if short = "" then last else short) ++ "\n")

def folderOf (path : String) : String :=
  let cs := (path.toList.reverse.dropWhile (· = '/')).reverse
  if cs = [] then if path = "" then "." else "/"
  else
    match Text.cutLast? '/' cs with
    | none => "."
    | some (before, _) =>
      let before := (before.reverse.dropWhile (· = '/')).reverse
      if before = [] then "/" else String.ofList before

def dirname : Tool :=
  Tool.withOptions { plain := ['z'] } 1 fun title given => do
    if given.operands.isEmpty then Tool.misused title "missing operand" 1
    for name in given.operands do
      Act.emit 1 (folderOf name ++ "\n")

def integer? (s : String) : Option Int :=
  match s.toList with
  | '-' :: digits => if digits ≠ [] && digits.all Char.isDigit then some (-(Sum.ofDigits 10 digits)) else none
  | digits => if digits ≠ [] && digits.all Char.isDigit then some (Sum.ofDigits 10 digits) else none

def seq : Tool := fun title arguments => do
  Act.setStatus 0
  let rec options : List String → String × Bool × List String
    | "-s" :: separator :: rest => (separator, (options rest).2)
    | "-w" :: rest => ((options rest).1, true, (options rest).2.2)
    | rest => ("\n", false, rest)
  let (separator, pads, operands) := options arguments
  match operands.find? fun operand => (integer? operand).isNone with
  | some wrong => Tool.misused title s!"invalid floating point argument: '{wrong}'" 1
  | none =>
    let run (first step last : Int) : Act Unit := do
      if step = 0 then Tool.misused title "invalid Zero increment value: '0'" 1
      else
        let count := if step < 0 then (first - last) / (-step) + 1 else (last - first) / step + 1
        let numbers := (List.range count.toNat).map fun (n : Nat) => toString (first + step * Int.ofNat n)
        let widest := (numbers.map String.length).foldl max 0
        let pad (n : String) : String :=
          String.ofList (List.replicate (widest - n.length) '0') ++ n
        let shown := if pads then numbers.map pad else numbers
        if !shown.isEmpty then Act.emit 1 (Text.join separator shown ++ "\n")
    match operands.filterMap integer? with
    | [] => Tool.misused title "missing operand" 1
    | [last] => run 1 1 last
    | [first, last] => run first 1 last
    | [first, step, last] => run first step last
    | _ =>
      let extra := operands.getD 3 ""
      Tool.misused title s!"extra operand '{extra}'" 1

def sleep : Tool := fun title arguments => do
  Act.setStatus 0
  let isTime (argument : String) : Bool :=
    let digits := argument.toList.takeWhile fun c => c.isDigit || c = '.'
    digits ≠ [] && argument.toList.drop digits.length ∈ [[], ['s'], ['m'], ['h'], ['d']]
  match arguments.find? fun argument => !isTime argument with
  | some wrong => Tool.misused title s!"invalid time interval '{wrong}'" 1
  | none => if arguments.isEmpty then Tool.misused title "missing operand" 1

def printenv : Tool := fun _ arguments => do
  Act.setStatus 0
  let machine ← get
  let value? (name : String) : Option String :=
    if machine.exported.contains name then machine.value? name else none
  if arguments.isEmpty then
    for name in machine.exported do
      match value? name with
      | some value => Act.emit 1 s!"{name}={value}\n"
      | none => pure ()
  for name in arguments do
    match value? name with
    | some value => Act.emit 1 (value ++ "\n")
    | none => Act.setStatus 1

end UefiBuild.Script.Tool
