import UefiBuild.Script.Tool.Options

namespace UefiBuild.Script.Tool

def cmp : Tool :=
  Tool.withOptions
    { plain := ['s', 'l', 'b'], long := [("silent", 's'), ("quiet", 's')] } 2 fun title given => do
    match given.operands with
    | [] => Tool.misused title "missing operand after 'cmp'" 2
    | first :: rest =>
      let second := rest.headD "-"
      let mut texts : List String := []
      for name in [first, second] do
        match ← Tool.input name with
        | .ok text => texts := texts ++ [text]
        | .error error =>
          if given.has 's' then Act.setStatus 2
          else Act.report title s!"{name}: {reason error}" 2
      match texts with
      | [a, b] =>
        let same := ((a.toList.zip b.toList).takeWhile fun (x, y) => x = y).length
        if a ≠ b then
          let line := (a.toList.take same).count '\n' + 1
          let byte := same + 1
          if given.has 's' then Act.setStatus 1
          else if same = a.length || same = b.length then
            let shorter := if same = a.length then first else second
            let place :=
              if same = 0 then "which is empty"
              else if Text.endsWith "\n" (String.ofList (a.toList.take same)) then
                let whole := line - 1
                s!"after byte {same}, line {whole}"
              else s!"after byte {same}, in line {line}"
            Act.report title s!"EOF on {shorter} {place}" 1
          else
            Act.emit 1 s!"{first} {second} differ: char {byte}, line {line}\n"
            Act.setStatus 1
      | _ => pure ()

end UefiBuild.Script.Tool
