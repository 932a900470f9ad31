import UefiBuild.Script.Edit.Apply
import UefiBuild.Script.Edit.Reader
import UefiBuild.Script.Tool.Options

namespace UefiBuild.Script.Tool

def sed : Tool := fun title arguments => do
  let spelled := arguments.map fun argument =>
    match argument.toList with
    | '-' :: c :: cs =>
      if c ≠ '-' && (c :: cs).contains 'i' && ((c :: cs).takeWhile (· ≠ 'i')).all (· ∈ "nErsuz".toList)
      then
        let letters := (c :: cs).takeWhile (· ≠ 'i')
        [s!"--in-place={String.ofList ((c :: cs).drop (letters.length + 1))}"] ++
          (if letters = [] then [] else [String.ofList ('-' :: letters)])
      else [argument]
    | _ => [argument]
  let form : OptionForm :=
    { plain := ['n', 'E', 'r', 's', 'u', 'z', 'i'], valued := ['e', 'f', 'l']
      long := [("quiet", 'n'), ("silent", 'n'), ("regexp-extended", 'E'), ("separate", 's'),
        ("in-place", 'i'), ("expression", 'e'), ("file", 'f'), ("posix", 'u')] }
  Act.setStatus 0
  match form.read spelled.flatten with
  | .error what => Act.report title what 1
  | .ok given =>
    let scripts := given.flags.filter fun flag => flag.1 ∈ ['e', 'f']
    let (scripts, names) :=
      match scripts, given.operands with
      | [], script :: names => ([('e', script)], names)
      | [], [] => ([], [])
      | scripts, names => (scripts, names)
    if scripts.isEmpty then
      Act.emit 2
        s!"Usage: {title} [OPTION]... \x7bscript-only-if-no-other-script\x7d [input-file]...\n\n"
      Act.setStatus 1
    else
      let sources ← scripts.mapM fun (letter, value) => do
        if letter = 'e' then return some { text := value.toList : Edit.EditSource }
        else
          match ← Tool.input value with
          | .ok text =>
            let text := (Text.beforeEnd? "\n" text).getD text
            return some { text := text.toList, file? := some value }
          | .error error =>
            Act.report title s!"couldn't open file {value}: {reason error}" 4
            return none
      if (← get).status = 0 then
        match Edit.read (given.has 'E' || given.has 'r') (sources.filterMap id) with
        | .error what => Act.report title what (if Text.startsWith "can't" what then 4 else 1)
        | .ok steps =>
          let quiet := given.has 'n'
          let complaint (name : String) (error : FileError) : String :=
            if error = .isFolder then
              if given.has 'i' then s!"couldn't edit {name}: not a regular file"
              else s!"read error on {name}: {reason error}"
            else s!"can't read {name}: {reason error}"
          let read (name : String) : Act (List (String × String)) := do
            let status := if (← get).isFolder name then 4 else 2
            Tool.inputs title complaint status [name]
          let names := if names.isEmpty then ["-"] else names
          match given.value? 'i' with
          | none =>
            let texts := (← names.mapM read).flatten
            if given.has 's' then
              for (_, text) in texts do
                let (written, status) := Edit.apply steps quiet (Edit.linesOf text)
                Act.emit 1 written
                if status ≠ 0 then Act.setStatus status
            else
              let lines := texts.flatMap fun row => Edit.linesOf row.2
              let (written, status) := Edit.apply steps quiet lines
              Act.emit 1 written
              if status ≠ 0 then Act.setStatus status
          | some ending =>
            for name in names do
              for (_, text) in ← read name do
                let (written, status) := Edit.apply steps quiet (Edit.linesOf text)
                if ending ≠ "" then
                  match (← get).writeFile (name ++ ending) text with
                  | .ok machine => set machine
                  | .error _ => pure ()
                match (← get).writeFile name written with
                | .ok machine => set machine
                | .error error => Act.report title s!"couldn't open file {name}: {reason error}" 4
                if status ≠ 0 then Act.setStatus status

end UefiBuild.Script.Tool
