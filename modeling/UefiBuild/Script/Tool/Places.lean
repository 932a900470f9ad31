import UefiBuild.Script.Tool.Options

namespace UefiBuild.Disk

def isWithin (above place : List String) : Bool := place.take above.length = above

def hasInside (disk : Disk) (place : List String) : Bool :=
  disk.entries.keys.any fun name => name ≠ place && isWithin place name

def remove (disk : Disk) (place : List String) : Disk :=
  ⟨disk.entries.filter fun other _ => !isWithin place other⟩

def duplicate (disk : Disk) (source target : List String) : Disk :=
  let found := disk.entries.entries.filter fun (place, _) => isWithin source place
  ⟨disk.entries.insertAll (found.map fun (place, entry) => (target ++ place.drop source.length, entry))⟩

def move (disk : Disk) (source target : List String) : Disk :=
  let found := disk.entries.entries.filter fun (place, _) => isWithin source place
  let left := (disk.remove source).remove target
  ⟨left.entries.insertAll (found.map fun (place, entry) => (target ++ place.drop source.length, entry))⟩

end UefiBuild.Disk

namespace UefiBuild.Script.Tool

def find (name : String) : Act (Except FileError (List String × DiskEntry)) := do
  let machine ← get
  return machine.disk.find (machine.path name)

def setDisk (disk : Disk) : Act Unit := modify fun machine => { machine with disk }

def lastName (path : String) : String :=
  let cs := (path.toList.reverse.dropWhile (· = '/')).reverse
  match Text.cutLast? '/' cs with
  | some (_, name) => String.ofList name
  | none => if cs = [] && path ≠ "" then "/" else String.ofList cs

def within (folder name : String) : String :=
  if Text.endsWith "/" folder then folder ++ name else folder ++ "/" ++ name

end UefiBuild.Script.Tool
