import UefiBuild.Failure

namespace UefiBuild

structure Finished where
  status : Nat
  errors : String
  disk : Disk

/-- A tool that reads an offset file and writes the map beside it. What it has written stays there
even if it fails. -/
structure OffsetTool where
  run : String → HostPath → Disk → Checked Unit × Disk

namespace OffsetTool

def arguments (input : HostPath) : List String :=
  let base := input.withoutExtension.text
  ["-o", base ++ ".bin", "-m", base ++ ".map", "-q", "-f", input.text]

/-- Runs a command. Of what it comes to only the status and the complaints matter. -/
def process (execute : Disk → String → List String → Except FileError Finished) : OffsetTool where
  run tool input disk :=
    match execute disk tool (arguments input) with
    | .error error => (.error (.of (.offsetToolStart tool error)), disk)
    | .ok done =>
      (if done.status = 0 then .ok ()
        else .error ((Failure.of (.offsetToolFailed tool)).withDetail done.errors), done.disk)

def idle : OffsetTool where
  run _ _ disk := (.ok (), disk)

end OffsetTool

end UefiBuild
