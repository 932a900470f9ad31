import UefiBuild.Script.Glob
import UefiBuild.Script.Printing
import UefiBuild.Script.Tool.Options

namespace UefiBuild.Script.Tool

def readSet (length : Nat) : Nat → List Char → Except String (List Char)
  | 0, _ | _, [] => .ok []
  | room + 1, cs => do
    match CharSet.readNamed? cs with
    | some (runs, rest) =>
      let rest ← readSet length room rest
      return runs.flatMap (fun (low, high) =>
        (List.range (high.toNat + 1 - low.toNat)).map fun n => Char.ofNat (low.toNat + n)) ++ rest
    | none =>
      match cs with
      | '[' :: ':' :: rest =>
        let name := rest.takeWhile (· ≠ ':')
        if (rest.drop name.length).take 2 = [':', ']'] then
          .error s!"invalid character class '{String.ofList name}'"
        else return '[' :: (← readSet length room (cs.drop 1))
      | '[' :: '=' :: c :: '=' :: ']' :: rest => return c :: (← readSet length room rest)
      | '[' :: c :: '*' :: rest =>
        let digits := rest.takeWhile Char.isDigit
        match rest.drop digits.length with
        | ']' :: rest =>
          let others ← readSet length room rest
          let count :=
            if digits = [] || digits = ['0'] then length - others.length
            else (Sum.ofDigits (if digits.head? = some '0' then 8 else 10) digits).toNat
          return List.replicate count c ++ others
        | _ => return '[' :: (← readSet length room (cs.drop 1))
      | cs =>
        let char (cs : List Char) : Char × List Char :=
          match cs with
          | '\\' :: c :: rest =>
            match Printing.escape (c :: rest) with
            | ('\\', after) => if after.length = rest.length + 1 then (c, rest) else ('\\', after)
            | found => found
          | c :: rest => (c, rest)
          | [] => ('\x00', [])
        let (low, rest) := char cs
        match rest with
        | '-' :: high :: after =>
          let (high, after) := char (high :: after)
          if high < low then
            let shown := String.ofList (cs.take (cs.length - after.length))
            .error s!"range-endpoints of '{shown}' are in reverse collating sequence order"
          else
            let others ← readSet length room after
            return (List.range (high.toNat + 1 - low.toNat)).map (fun n => Char.ofNat (low.toNat + n)) ++
              others
        | rest => return low :: (← readSet length room rest)

def squeeze (inSet : Char → Bool) : List Char → List Char
  | c :: d :: rest =>
    if c = d && inSet c then squeeze inSet (d :: rest) else c :: squeeze inSet (d :: rest)
  | cs => cs

def tr : Tool :=
  Tool.withOptions
    { plain := ['c', 'C', 'd', 's', 't']
      long := [("complement", 'c'), ("delete", 'd'), ("squeeze-repeats", 's'),
        ("truncate-set1", 't')] } 1 fun title given => do
    let deletes := given.has 'd'
    let squeezes := given.has 's'
    let most := if deletes && !squeezes then 1 else 2
    let needed := if deletes = squeezes then 2 else 1
    let run (first second : List Char) : Act Unit := do
      let complements := given.has 'c' || given.has 'C'
      let inFirst (c : Char) : Bool := first.contains c != complements
      let text := (← Act.takeAll 0).toList
      if deletes then
        let text := text.filter fun c => !inFirst c
        Act.emit 1 (String.ofList (if squeezes then squeeze second.contains text else text))
      else if given.operands.length = 1 then Act.emit 1 (String.ofList (squeeze inFirst text))
      else
        let last := second.getLastD ' '
        let pairs := (first.zip (if given.has 't' then second
          else second ++ List.replicate (first.length - second.length) last)).reverse
        let change (c : Char) : Char :=
          if complements then if first.contains c then c else last
          else (pairs.lookup c).getD c
        let text := text.map change
        Act.emit 1 (String.ofList (if squeezes then squeeze second.contains text else text))
    match given.operands with
    | [] => Tool.misused title "missing operand" 1
    | operands =>
      if operands.length < needed then
        let last := operands.headD ""
        Act.report title s!"missing operand after '{last}'" 1
        Act.emit 2 (if deletes
          then "Two strings must be given when both deleting and squeezing repeats.\n"
          else "Two strings must be given when translating.\n")
        Act.emit 2 s!"Try '{title} --help' for more information.\n"
      else if most < operands.length then
        let extra := operands.getD most ""
        Act.report title s!"extra operand '{extra}'" 1
        if operands.length = 2 then
          Act.emit 2 "Only one string may be given when deleting without squeezing repeats.\n"
        Act.emit 2 s!"Try '{title} --help' for more information.\n"
      else
        let read (length : Nat) (written : String) : Except String (List Char) :=
          readSet length (written.length + 1) written.toList
        match read 0 (operands.headD "") with
        | .error what => Act.report title what 1
        | .ok first =>
          match read first.length (operands.getD 1 "") with
          | .error what => Act.report title what 1
          | .ok second =>
            if second.isEmpty && operands.length = 2 && !deletes then
              Act.report title "when not truncating set1, string2 must be non-empty" 1
            else run first second

end UefiBuild.Script.Tool
