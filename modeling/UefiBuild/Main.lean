import UefiBuild.Tools.Report

namespace UefiBuild

structure Arguments where
  definitions? : Option String := none
  target? : Option String := none
  toolchain? : Option String := none
  arch? : Option String := none
  options : List String := []

namespace Arguments

def once (name : String) (known? : Option String) (value : String) : Except String (Option String) :=
  if known?.isSome then .error s!"the argument '{name}' cannot be used multiple times"
  else .ok (some value)

def give (known : Arguments) (name value : String) : Except String Arguments :=
  match name with
  | "--tools-def" => (once name known.definitions? value).map ({ known with definitions? := · })
  | "--target" => (once name known.target? value).map ({ known with target? := · })
  | "--toolchain" => (once name known.toolchain? value).map ({ known with toolchain? := · })
  | "--arch" => (once name known.arch? value).map ({ known with arch? := · })
  | "--option" => .ok { known with options := known.options ++ [value] }
  | _ => .error s!"unexpected argument '{name}'"

def read (known : Arguments) : List String → Except String Arguments
  | [] => .ok known
  | word :: rest =>
    match Text.cutAtFirst? '=' word, rest with
    | some (name, value), rest => do (← known.give name value).read rest
    | none, value :: rest => do (← known.give word value).read rest
    | none, [] => .error s!"a value is required for '{word}'"

def report (arguments : Arguments) (table : ToolTable) (toolchain : String) :
    Except ReportFault ToolReport := do
  let options ← arguments.options.mapM ToolReport.readOption
  ToolReport.make table (arguments.target?.getD "DEBUG") toolchain (arguments.arch?.getD "X64")
    (.ofList options)

end Arguments

def openError : IO.Error → FileError
  | .noFileOrDirectory .. => .notFound
  | .permissionDenied .. => .permissionDenied
  | .inappropriateType _ 20 _ => .notFolder
  | _ => .isFolder

def readFile (name : String) : IO (Except FileError String) := do
  try
    return match String.fromUTF8? (← IO.FS.readBinFile name) with
      | some text => .ok text
      | none => .error .notText
  catch error => return .error (openError error)

def complain (code : UInt32) (message : String) : IO UInt32 := do
  IO.eprintln s!"error: {message}"
  return code

def showTools (words : List String) : IO UInt32 := do
  match Arguments.read {} words with
  | .error message => complain 2 message
  | .ok arguments =>
    match arguments.definitions?, arguments.toolchain? with
    | none, _ => complain 2 "the argument '--tools-def' is required"
    | _, none => complain 2 "the argument '--toolchain' is required"
    | some name, some toolchain =>
      let made := (ToolReport.readTools ⟨name⟩ (← readFile name)).bind fun table =>
        arguments.report table toolchain
      match made with
      | .error fault => complain 1 fault.message
      | .ok report =>
        IO.print report.text
        return 0

end UefiBuild

def main : List String → IO UInt32
  | "tools" :: words => UefiBuild.showTools words
  | _ => UefiBuild.complain 2
    "usage: tools --tools-def FILE --toolchain NAME [--target NAME] [--arch NAME] [--option TEXT]..."
