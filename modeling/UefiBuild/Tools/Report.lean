import UefiBuild.Options.Expand
import UefiBuild.Tools.Table

namespace UefiBuild

structure ToolReport where
  family : String
  buildRuleFamily : String
  tools : ToolOptions
  options? : Option ToolOptions

inductive ReportFault
  | unreadable (file : HostPath) (error : FileError)
  | invalid (file : HostPath) (failure : Failure)
  | optionForm (text : String)
  | optionKey (key : String)
  | noTools (target toolchain arch : String)
  | arbitration (failure : Failure)

def ReportFault.message : ReportFault → String
  | unreadable file error =>
    s!"failed to read tool definitions from {file.text}: {error.message}"
  | invalid file failure => s!"invalid tool definitions in {file.text}: {failure.text}"
  | optionForm text => s!"build option [{text}] is not FAMILY:KEY=VALUE"
  | optionKey key => s!"build option key [{key}] is not TARGET_TOOLCHAIN_ARCH_TOOL_ATTRIBUTE"
  | noTools target toolchain arch => s!"no tools defined for {target}_{toolchain}_{arch}"
  | arbitration failure => s!"failed to arbitrate build options: {failure.text}"

namespace ToolReport

def readTools (file : HostPath) (content : Except FileError String) : Except ReportFault ToolTable :=
  match content with
  | .error error => .error (.unreadable file error)
  | .ok text => (ToolTable.read text).mapError (.invalid file)

/-- Reads `FAMILY:KEY=VALUE`. The family can be left out; a value that starts with `=` replaces. -/
def readOption (text : String) : Except ReportFault (OptionId × String) :=
  match Text.cutAtFirst? '=' text with
  | none => .error (.optionForm text)
  | some (left, value) =>
    let (family, key) := (Text.cutAtFirst? ':' left).elim ("", Text.trim left) fun (family, key) =>
      (Text.trim family, Text.trim key)
    if (Text.split '_' key).length = 5 then .ok (⟨family, key⟩, Text.trim value)
    else .error (.optionKey key)

def make (table : ToolTable) (target toolchain arch : String) (options : BuildOptions) :
    Except ReportFault ToolReport := do
  let tools : ToolOptions := (table.entriesFor target toolchain arch).entries.foldl
    (fun tools ((tool, attr), value) =>
      tools.update tool fun attributes => (attributes.getD ∅).insert attr value) ∅
  if tools.isEmpty then throw (.noTools target toolchain arch)
  let family := table.family toolchain
  let buildRuleFamily := table.buildRuleFamily toolchain
  if options.isEmpty then return { family, buildRuleFamily, tools, options? := none }
  let context : OptionContext := { target, toolchain, arch, buildRuleFamily, tools }
  let expanded ← (context.expand options).mapError .arbitration
  return { family, buildRuleFamily, tools, options? := some (.layered [tools, expanded]) }

def padded (width : Nat) (s : String) : String :=
  s ++ String.ofList (List.replicate (width - s.length) ' ')

def tableText (tools : ToolOptions) : String :=
  Text.join "" (tools.entries.map fun (tool, attributes) =>
    s!"[{tool}]\n" ++ Text.join "" (attributes.entries.map fun (attr, value) =>
      "  " ++ padded 16 attr ++ s!" = {value}\n"))

def text (report : ToolReport) : String :=
  s!"FAMILY           = {report.family}\nBUILDRULEFAMILY  = {report.buildRuleFamily}\n\n" ++
    tableText report.tools ++
    report.options?.elim "" fun options => "\n# with build options\n" ++ tableText options

end ToolReport

end UefiBuild
