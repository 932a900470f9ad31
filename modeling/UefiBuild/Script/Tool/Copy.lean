import UefiBuild.Script.Tool.Places

namespace UefiBuild.Script.Tool

def targets (title : String) (given : Given) : Act (List (String × String)) := do
  let isFolder (name : String) : Act Bool := return (← get).isFolder name
  let into (folder : String) (sources : List String) : List (String × String) :=
    sources.map fun source => (source, within folder (lastName source))
  match given.value? 't', given.operands with
  | some folder, sources =>
    if ← isFolder folder then return into folder sources
    else
      let error := match ← find folder with
        | .error error => error
        | .ok _ => .notFolder
      Act.report title s!"target directory '{folder}': {reason error}" 1
      return []
  | none, [] =>
    Tool.misused title "missing file operand" 1
    return []
  | none, [source] =>
    Tool.misused title s!"missing destination file operand after '{source}'" 1
    return []
  | none, [source, target] =>
    if !given.has 'T' && (← isFolder target) then return into target [source]
    else return [(source, target)]
  | none, operands =>
    let folder := operands.getLastD ""
    if ← isFolder folder then return into folder operands.dropLast
    else
      let error := match ← find folder with
        | .error error => error
        | .ok _ => .notFolder
      Act.report title s!"target '{folder}': {reason error}" 1
      return []

def copyOne (title : String) (given : Given) (source target : String) : Act Unit := do
  let fail (what : String) : Act Unit := Act.report title what 1
  let recursive := given.has 'r' || given.has 'R' || given.has 'a'
  match ← find source with
  | .error error => fail s!"cannot stat '{source}': {reason error}"
  | .ok (place, entry) =>
    let machine ← get
    if entry.isFolder && !recursive then fail s!"-r not specified; omitting directory '{source}'"
    else
      match ← find target with
      | .ok (other, there) =>
        if place = other then
          if !given.has 'n' then fail s!"'{source}' and '{target}' are the same file"
        else if given.has 'n' then return
        else if entry.isFolder then
          if !there.isFolder then
            fail s!"cannot overwrite non-directory '{target}' with directory '{source}'"
          else if Disk.isWithin place other then
            fail s!"cannot copy a directory, '{source}', into itself, '{target}'"
          else setDisk (machine.disk.duplicate place other)
        else if there.isFolder then
          fail s!"cannot overwrite directory '{target}' with non-directory"
        else
          match machine.disk.content (machine.path source) with
          | .ok content =>
            let kept : DiskEntry :=
              match entry, there with
              | .file _ executable, .file _ before =>
                .file content (if given.has 'p' || given.has 'a' then executable else before)
              | _, there => there
            setDisk ⟨machine.disk.entries.insert other kept⟩
          | .error error => fail s!"cannot open '{source}' for reading: {reason error}"
      | .error .notFound =>
        match machine.disk.locate (machine.path target) with
        | .error error =>
          let kind := if entry.isFolder then "directory" else "regular file"
          fail s!"cannot create {kind} '{target}': {reason error}"
        | .ok other =>
          if !entry.isFolder && Disk.namesFolder (machine.path target) then
            fail s!"cannot create regular file '{target}': Not a directory"
          else if Disk.isWithin place other && entry.isFolder then
            fail s!"cannot copy a directory, '{source}', into itself, '{target}'"
          else setDisk (machine.disk.duplicate place other)
      | .error error => fail s!"cannot stat '{target}': {reason error}"

def cp : Tool :=
  Tool.withOptions
    { plain := ['a', 'r', 'R', 'f', 'p', 'n', 'v', 'T', 'u', 'd', 'P', 'L', 'H', 'i', 'x']
      valued := ['t']
      long := [("recursive", 'r'), ("force", 'f'), ("archive", 'a'), ("no-clobber", 'n'),
        ("verbose", 'v'), ("target-directory", 't'), ("no-target-directory", 'T'), ("update", 'u'),
        ("preserve", 'p')] } 1 fun title given => do
    for (source, target) in ← targets title given do
      let before := (← get).status
      Act.setStatus 0
      copyOne title given source target
      if (← get).status = 0 then
        if given.has 'v' then Act.emit 1 s!"'{source}' -> '{target}'\n"
        Act.setStatus before

def moveOne (title : String) (given : Given) (source target : String) : Act Unit := do
  let fail (what : String) : Act Unit := Act.report title what 1
  match ← find source with
  | .error error => fail s!"cannot stat '{source}': {reason error}"
  | .ok (place, entry) =>
    let machine ← get
    match ← find target with
    | .ok (other, there) =>
      if given.has 'n' then return
      else if place = other then
        if entry.isFolder then
          fail s!"cannot move '{source}' to a subdirectory of itself, '{target}'"
        else fail s!"'{source}' and '{target}' are the same file"
      else if entry.isFolder && Disk.isWithin place other then
        fail s!"cannot move '{source}' to a subdirectory of itself, '{target}'"
      else if entry.isFolder && !there.isFolder then
        fail s!"cannot overwrite non-directory '{target}' with directory '{source}'"
      else if !entry.isFolder && there.isFolder then
        fail s!"cannot overwrite directory '{target}' with non-directory"
      else if there.isFolder && machine.disk.hasInside other then
        fail s!"cannot move '{source}' to '{target}': Directory not empty"
      else setDisk (machine.disk.move place other)
    | .error .notFound =>
      match machine.disk.locate (machine.path target) with
      | .error error => fail s!"cannot move '{source}' to '{target}': {reason error}"
      | .ok other =>
        if !entry.isFolder && Disk.namesFolder (machine.path target) then
          fail s!"cannot move '{source}' to '{target}': Not a directory"
        else if Disk.isWithin place other then
          fail s!"cannot move '{source}' to a subdirectory of itself, '{target}'"
        else setDisk (machine.disk.move place other)
    | .error error => fail s!"cannot stat '{target}': {reason error}"

def mv : Tool :=
  Tool.withOptions
    { plain := ['f', 'n', 'v', 'T', 'u', 'i']
      valued := ['t']
      long := [("force", 'f'), ("no-clobber", 'n'), ("verbose", 'v'), ("target-directory", 't'),
        ("no-target-directory", 'T'), ("update", 'u')] } 1 fun title given => do
    for (source, target) in ← targets title given do
      let before := (← get).status
      Act.setStatus 0
      moveOne title given source target
      if (← get).status = 0 then
        if given.has 'v' then Act.emit 1 s!"renamed '{source}' -> '{target}'\n"
        Act.setStatus before

/-- Makes a second file of the same content. Names that stand for others are not kept apart from them. -/
def ln : Tool :=
  Tool.withOptions
    { plain := ['s', 'f', 'n', 'v', 'T', 'r'], valued := ['t']
      long := [("symbolic", 's'), ("force", 'f'), ("no-target-directory", 'T')] } 1 fun title given => do
    let given := if given.operands.length = 1 then { given with operands := given.operands ++ ["."] } else given
    for (source, target) in ← targets title given do
      let source :=
        if given.has 's' && !Text.startsWith "/" source then
          match Text.cutAtLast? '/' target with
          | some (folder, _) => within folder source
          | none => source
        else source
      if (← get).isPresent target && !given.has 'f' then
        let kind := if given.has 's' then "symbolic link" else "hard link"
        Act.report title s!"failed to create {kind} '{target}': File exists" 1
      else copyOne title given source target

end UefiBuild.Script.Tool
