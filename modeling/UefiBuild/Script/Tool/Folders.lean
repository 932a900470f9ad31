import UefiBuild.Script.Tool.Places

namespace UefiBuild.Script.Tool

def rm : Tool :=
  Tool.withOptions
    { plain := ['f', 'r', 'R', 'd', 'v', 'i', 'I']
      long := [("force", 'f'), ("recursive", 'r'), ("dir", 'd'), ("verbose", 'v')] } 1
    fun title given => do
      if given.operands.isEmpty && !given.has 'f' then Tool.misused title "missing operand" 1
      for name in given.operands do
        let recursive := given.has 'r' || given.has 'R'
        match ← find name with
        | .error error =>
          if !(given.has 'f' && (error = .notFound || error = .notFolder)) then
            Act.report title s!"cannot remove '{name}': {reason error}" 1
        | .ok (place, entry) =>
          let machine ← get
          if entry.isFolder && !recursive && !given.has 'd' then
            Act.report title s!"cannot remove '{name}': Is a directory" 1
          else if entry.isFolder && (lastName name = "." || lastName name = "..") then
            Act.report title
              s!"refusing to remove '.' or '..' directory: skipping '{name}'" 1
          else if entry.isFolder && !recursive && machine.disk.hasInside place then
            Act.report title s!"cannot remove '{name}': Directory not empty" 1
          else
            setDisk (machine.disk.remove place)
            if given.has 'v' then
              Act.emit 1 (if entry.isFolder then s!"removed directory '{name}'\n"
                else s!"removed '{name}'\n")

def pathsTo (path : String) : List String :=
  let names := Text.split '/' path
  let paths := (List.range names.length).map fun n => Text.join "/" (names.take (n + 1))
  paths.filter fun p => p ≠ "" && !Text.endsWith "/" p

def mkdir : Tool :=
  Tool.withOptions
    { plain := ['p', 'v']
      valued := ['m']
      long := [("parents", 'p'), ("verbose", 'v'), ("mode", 'm')] } 1 fun title given => do
    let make (name : String) (mayBe : Bool) : Act Bool := do
      let machine ← get
      let fail (error : String) : Act Bool := do
        Act.report title s!"cannot create directory '{name}': {error}" 1
        return false
      match ← find name with
      | .ok (_, entry) =>
        if mayBe && entry.isFolder then return true else fail "File exists"
      | .error .notFound =>
        match machine.disk.locate (machine.path name) with
        | .error error => fail (reason error)
        | .ok place =>
          setDisk ⟨machine.disk.entries.insert place .folder⟩
          if given.has 'v' then Act.emit 1 s!"{title}: created directory '{name}'\n"
          return true
      | .error error => fail (reason error)
    if given.operands.isEmpty then Tool.misused title "missing operand" 1
    for name in given.operands do
      if given.has 'p' && name ≠ "" then
        let mut going := true
        let last := (pathsTo name).getLastD ""
        for path in pathsTo name do
          if going then
            match ← find path with
            | .ok (_, .file _ _) =>
              if path ≠ last then
                Act.report title s!"cannot create directory '{path}': Not a directory" 1
                going := false
              else going ← make path true
            | _ => going ← make path true
      else discard (make name false)

def rmdir : Tool :=
  Tool.withOptions
    { plain := ['p', 'v'], long := [("parents", 'p'), ("verbose", 'v')] } 1 fun title given => do
    if given.operands.isEmpty then Tool.misused title "missing operand" 1
    for name in given.operands do
      let fail (error : String) : Act Unit :=
        Act.report title s!"failed to remove '{name}': {error}" 1
      match ← find name with
      | .error error => fail (reason error)
      | .ok (place, entry) =>
        let machine ← get
        if !entry.isFolder then fail "Not a directory"
        else if machine.disk.hasInside place then fail "Directory not empty"
        else setDisk (machine.disk.remove place)

def touch : Tool :=
  Tool.withOptions
    { plain := ['a', 'c', 'm', 'h', 'f'], valued := ['d', 'r', 't']
      long := [("no-create", 'c'), ("date", 'd'), ("reference", 'r')] } 1 fun title given => do
    if given.operands.isEmpty then Tool.misused title "missing file operand" 1
    for name in given.operands do
      let machine ← get
      match ← find name with
      | .ok _ => pure ()
      | .error error =>
        if !(given.has 'c' && error = .notFound) then
          match machine.disk.write (machine.path name) (.text "") with
          | .ok disk => setDisk disk
          | .error .isFolder => Act.report title s!"setting times of '{name}': No such file or directory" 1
          | .error error => Act.report title s!"cannot touch '{name}': {reason error}" 1

/-- Makes a file of a new name. The names come in a row, so that no two are the same. -/
def mktemp : Tool :=
  Tool.withOptions
    { plain := ['d', 'q', 'u', 't'], valued := ['p']
      long := [("directory", 'd'), ("quiet", 'q'), ("dry-run", 'u'), ("tmpdir", 'p')] } 1
    fun title given => do
      let wanted := given.operands.headD "/tmp/tmp.XXXXXXXXXX"
      let wanted :=
        match given.value? 'p' with
        | some folder => within folder wanted
        | none => if given.has 't' then within "/tmp" wanted else wanted
      let open_ := (wanted.toList.reverse.takeWhile (· = 'X')).length
      if open_ < 3 then Act.report title s!"too few X's in template '{wanted}'" 1
      else
        let machine ← get
        let digits := Nat.toDigits 10 machine.nextStream
        let fill := List.replicate (open_ - digits.length) 'a' ++ digits
        let name := String.ofList (wanted.toList.take (wanted.length - open_) ++ fill)
        modify fun machine => { machine with nextStream := machine.nextStream + 1 }
        let kind := if given.has 'd' then "directory" else "file"
        let failed (error : FileError) : Act Unit :=
          Act.report title s!"failed to create {kind} via template '{wanted}': {reason error}" 1
        let made : Except FileError Disk :=
          if given.has 'd' then
            (machine.disk.locate (machine.path name)).map fun place =>
              ⟨machine.disk.entries.insert place .folder⟩
          else machine.disk.write (machine.path name) (.text "")
        match made with
        | .error error => failed error
        | .ok disk =>
          setDisk disk
          Act.emit 1 (name ++ "\n")

end UefiBuild.Script.Tool
