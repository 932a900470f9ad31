import UefiBuild.Script.Tool.Copy

namespace UefiBuild.Script.Tool

def changedMode? (executable : Bool) (mode : String) : Option Bool :=
  let cs := mode.toList
  if cs ≠ [] && cs.all (fun c => '0' ≤ c && c ≤ '7') then
    some (((cs.reverse.take 3).any fun c => c.toNat % 2 = 1))
  else
    (Text.split ',' mode).foldlM (fun executable part =>
      let who := part.toList.takeWhile (· ∈ ['u', 'g', 'o', 'a'])
      match part.toList.drop who.length with
      | operator :: rights =>
        if !rights.all (· ∈ ['r', 'w', 'x', 'X', 's', 't']) then none
        else
          let runs := rights.contains 'x' || (rights.contains 'X' && executable)
          match operator with
          | '+' => some (executable || runs)
          | '-' => some (executable && !(runs && (who.isEmpty || who.contains 'a')))
          | '=' => some runs
          | _ => none
      | [] => none) executable

def chmod : Tool :=
  fun title arguments => do
    Act.setStatus 0
    let options := arguments.takeWhile (· ∈ ["-R", "-f", "-v", "-c"])
    match arguments.drop options.length with
    | [] => Tool.misused title "missing operand" 1
    | [mode] => Tool.misused title s!"missing operand after '{mode}'" 1
    | mode :: names =>
      if (changedMode? false mode).isNone then Tool.misused title s!"invalid mode: '{mode}'" 1
      else
        for name in names do
          match ← find name with
          | .error error => Act.report title s!"cannot access '{name}': {reason error}" 1
          | .ok (place, entry) =>
            let isMeant (other : List String) : Bool :=
              other = place || (options.contains "-R" && entry.isFolder && Disk.isWithin place other)
            let change (other : List String) (entry : DiskEntry) : DiskEntry :=
              match entry with
              | .folder => .folder
              | .file content executable =>
                if isMeant other then .file content ((changedMode? executable mode).getD executable)
                else .file content executable
            setDisk ⟨(← get).disk.entries.mapValues change⟩

def layFolder (title folder : String) : Act Unit := do
  let machine ← get
  match machine.disk.makeFolders (machine.path folder) with
  | .ok disk => setDisk disk
  | .error error => Act.report title s!"cannot create directory '{folder}': {reason error}" 1

def install : Tool :=
  Tool.withOptions
    { plain := ['D', 'd', 'p', 'v', 'c', 'C', 'T'], valued := ['m', 'o', 'g', 't']
      long := [("directory", 'd'), ("mode", 'm')] } 1 fun title given => do
    if given.has 'd' then
      for folder in given.operands do
        layFolder title folder
    else
      let runs := (changedMode? false ((given.value? 'm').getD "755")).getD false
      for (source, target) in ← targets title given do
        if given.has 'D' then
          match Text.cutAtLast? '/' target with
          | some (folder, _) => layFolder title folder
          | none => pure ()
        copyOne title given source target
        match ← find target with
        | .ok (place, .file content _) =>
          setDisk ⟨(← get).disk.entries.insert place (.file content runs)⟩
        | _ => pure ()

end UefiBuild.Script.Tool
