import UefiBuild.Script.Run
import UefiBuild.Vpd.Tool

namespace UefiBuild.Script

def room : Nat := 100000

def searchPath : String := "/usr/local/sbin:/usr/local/bin:/usr/sbin:/usr/bin:/sbin:/bin"

def standingFolders : List String := ["/bin", "/dev", "/etc", "/tmp", "/usr/bin"]

def Machine.ofDisk (disk : Disk) : Machine :=
  let disk := standingFolders.foldl (fun disk folder => disk.layFolder ⟨folder⟩) disk
  let machine : Machine :=
    { disk, values := Table.ofList [("PATH", searchPath)], exported := ["PATH"] }
  ((machine.bindStream 0 { channel := .nothing }).bindStream 1 { channel := .nothing }).bindStream 2
    { channel := .buffer "" }

def commandLimit : Nat := 255

def findCommand (machine : Machine) (command : String) (arguments : List String) :
    Except FileError Launch :=
  if (command :: arguments).any fun word => word.toList.contains '\x00' then .error .nulInCommand
  else if !command.toList.contains '/' && commandLimit < command.utf8ByteSize then
    .error .nameTooLong
  else if command = "." || command = ".." then .error .permissionDenied
  else Launch.of machine (toBytes command) (arguments.map toBytes)

/-- Runs a command of the machine. -/
def execute (disk : Disk) (command : String) (arguments : List String) :
    Except FileError Finished :=
  let machine := Machine.ofDisk disk
  (findCommand machine command arguments).map fun found =>
    let (_, after) := (start room found).run machine
    let errors := ((machine.streamOf? 2).bind fun (number, _) => after.streams.get? number).map
      after.contentOf
    { status := after.status, errors := ofBytes (errors.getD ""), disk := after.disk }

end UefiBuild.Script
