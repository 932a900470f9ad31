import UefiBuild.Failure

namespace UefiBuild

structure OffsetRequest where
  pcd : Pcd
  offsets : List String

structure OffsetFile where
  requests : Table PcdId OffsetRequest := ∅
  assigned : Table PcdId (List String) := ∅
  deriving Inhabited

namespace OffsetFile

def auto : String := "*"

def heading : String :=
  "## @file\n#\n#  THIS IS AUTO-GENERATED FILE BY BUILD TOOLS AND PLEASE DO NOT MAKE MODIFICATION.\n" ++
    "#\n#  This file lists all VPD information for a platform collected by build.exe.\n#\n\n"

/-- An item asks for each offset once, and is kept as it was when it first asked. -/
def add (file : OffsetFile) (pcd : Pcd) (offset : String) : OffsetFile :=
  { file with
    requests := file.requests.update pcd.id fun old =>
      let request := old.getD { pcd, offsets := [] }
      { request with offsets := addNew request.offsets offset } }

def count (file : OffsetFile) : Nat := file.requests.size

def contains (file : OffsetFile) (id : PcdId) : Bool := file.requests.contains id

/-- The value of the first stock keeping unit; the item's own where that one is blank. -/
def shownValue (pcd : Pcd) : String :=
  let value := Text.trim pcd.firstSkuValue
  if value = "" then pcd.value else value

def shownSize (pcd : Pcd) : String :=
  let given := pcd.maxSize?.elim "" Text.trim
  if given = "" then (pcd.datumType?.bind DatumType.width?).elim "" toString else given

def row (pcd : Pcd) (offset : String) : String :=
  Text.join "|" [pcd.fullName, Text.trim offset, shownSize pcd, shownValue pcd] ++ "\n"

def render (file : OffsetFile) : String :=
  heading ++ Text.join "" (file.requests.values.flatMap fun request =>
    request.offsets.map (row request.pcd))

/-- Reads `Space.Name|Offset|Size|Value`. Blank lines and comments say nothing. -/
def readRow (line : String) : Checked (Option (PcdId × String)) :=
  let line := Text.trim line
  if line = "" ∨ Text.startsWith "#" line then .ok none
  else
    match Text.valueList '|' line with
    | [fullName, offset, _, _] =>
      match Text.cutAtFirst? '.' fullName with
      | some (space, name) => .ok (some (⟨name, space⟩, offset))
      | none => .error (.of (.offsetRowName fullName))
    | _ => .error ((Failure.of .offsetRow).withDetail line)

def assign (file : OffsetFile) (id : PcdId) (offset : String) : OffsetFile :=
  { file with assigned := file.assigned.update id fun old => old.getD [] ++ [offset] }

def readRows (source : SourcePath) (file : OffsetFile) : Nat → List String → OffsetFile × Checked Unit
  | _, [] => (file, .ok ())
  | number, line :: rest =>
    match readRow line with
    | .error failure => (file, .error (failure.atLine source number))
    | .ok none => readRows source file (number + 1) rest
    | .ok (some (id, offset)) => readRows source (file.assign id offset) (number + 1) rest

def readMap (file : OffsetFile) (source : HostPath) (text : String) : OffsetFile × Checked Unit :=
  readRows (.ofText source.text) file 1 (Text.lines text)

def write (file : OffsetFile) (disk : Disk) (path : HostPath) : Checked Disk :=
  (disk.write path (.text file.render)).mapError fun error => .of (.offsetFileWrite path error)

def readFrom (file : OffsetFile) (disk : Disk) (path : HostPath) : OffsetFile × Checked Unit :=
  match disk.read path with
  | .ok text => file.readMap path text
  | .error error => (file, .error (.of (.offsetMapRead path error)))

def offset? (file : OffsetFile) (id : PcdId) (index : Nat) : Option String :=
  (file.assigned.get? id).bind (·[index]?)

end OffsetFile

end UefiBuild
