import UefiBuild.Config
import UefiBuild.Options.Expand
import UefiBuild.Platform.Basic

namespace UefiBuild

structure PlatformContext where
  platform : Shared Platform
  workspace : HostPath
  target : String
  toolchain : String
  arch : String
  toolFamily : String
  buildRuleFamily : String
  flashDefinition? : Option SourcePath
  buildFolder : HostPath
  makeFolder : HostPath
  tools : ToolOptions
  libraryPaths : List String
  makeCommand : List String
  uniFlag? : Option String
  edkOptions : ToolOptions := ∅
  edk2Options : ToolOptions := ∅
  allOptions : ToolOptions := ∅

namespace PlatformContext

/-- Where dynamic libraries are found is no attribute of a tool. -/
def toolOptions (entries : List ((String × String) × String)) : ToolOptions :=
  (entries.filter fun ((_, attr), _) => attr ≠ "DLL").foldl (fun tools ((tool, attr), value) =>
    tools.update tool fun attributes => (attributes.getD ∅).insert attr value) ∅

def commandOf (tools : ToolOptions) : List String :=
  match tools.get? "MAKE" with
  | none => []
  | some make =>
    (make.get? "PATH").elim [] fun path => Text.words path ++ (make.get? "FLAGS").toList

def optionContext (context : PlatformContext) : OptionContext where
  target := context.target
  toolchain := context.toolchain
  arch := context.arch
  buildRuleFamily := context.buildRuleFamily
  tools := context.tools

def expand (context : PlatformContext) (options : BuildOptions) : Checked ToolOptions :=
  context.optionContext.expand options

def make (config : BuildConfig) (shared : Shared Platform) : Checked PlatformContext := do
  let platform := shared.value
  if config.tools.isEmpty then
    throw ((Failure.of .toolsMissing).withDetail "[platform]")
  let buildFolder :=
    (config.workspace.join platform.outputFolder).join s!"{config.target}_{config.toolchain}"
  let entries := (config.tools.entriesFor config.target config.toolchain platform.arch).entries
  let tools := toolOptions entries
  let context : PlatformContext := {
    platform := shared, workspace := config.workspace, target := config.target
    toolchain := config.toolchain, arch := platform.arch
    toolFamily := config.tools.family config.toolchain
    buildRuleFamily := config.tools.buildRuleFamily config.toolchain
    flashDefinition? := config.flashDefinition?.or platform.flashDefinition?
    buildFolder, makeFolder := buildFolder.join platform.arch, tools
    libraryPaths := (entries.filter fun ((_, attr), _) => attr = "DLL").map Prod.snd
    makeCommand := commandOf tools, uniFlag? := config.uniFlag? }
  let edkOptions ← context.expand (platform.buildOptions (some .edk))
  let edk2Options ← context.expand (platform.buildOptions (some .edk2))
  let allOptions ← context.expand (platform.buildOptions none)
  return { context with edkOptions, edk2Options, allOptions }

def data (context : PlatformContext) : Platform := context.platform.value

def file (context : PlatformContext) : SourcePath := context.data.file

def options (context : PlatformContext) (style? : Option ModuleStyle) : ToolOptions :=
  match style? with
  | some .edk => context.edkOptions
  | some .edk2 => context.edk2Options
  | none => context.allOptions

def lists (context : PlatformContext) (file : SourcePath) : Bool := context.data.components.contains file

/-- The options of a module: tool definitions, then what the module says, then the platform, then
what the platform says for this module alone. -/
def moduleOptions (context : PlatformContext) (module : Module) : Checked ToolOptions := do
  let own ← context.expand module.options
  let component ← (context.data.components.get? module.file).elim (.ok ∅) fun component =>
    context.expand component.options
  let layered := ToolOptions.layered [context.tools, own, context.options (some module.style), component]
  match context.uniFlag? with
  | some flag =>
    if module.isLegacy then
      return layered.update "BUILD" fun attributes => (attributes.getD ∅).insert "FLAGS" flag
    return layered
  | none => return layered

def toolFile (context : PlatformContext) : HostPath :=
  context.makeFolder.join s!"TOOLS_DEF.{context.arch}"

def shownAttribute (context : PlatformContext) (tool attr value : String) : String :=
  match (context.allOptions.get? tool).bind (·.get? attr) with
  | none => value
  | some option => (Text.afterStart? "=" option).getD (value ++ " " ++ option)

def toolLine (tool attr value : String) : String :=
  if attr = "PATH" then s!"{tool} = {value}\n" else s!"{tool}_{attr} = {value}\n"

def toolText (context : PlatformContext) : String :=
  Text.join "" ((context.tools.entries.filter fun (tool, _) => tool ≠ "MAKE").map fun (tool, attributes) =>
    Text.join "" (attributes.entries.map fun (attr, value) =>
      toolLine tool attr (context.shownAttribute tool attr value)) ++ "\n")

def makeVariables (context : PlatformContext) : Table String String :=
  let platform := context.data
  .ofList [
    ("PLATFORM_NAME", platform.name), ("PLATFORM_GUID", platform.guid),
    ("PLATFORM_VERSION", platform.version), ("PLATFORM_RELATIVE_DIR", platform.file.dir),
    ("PLATFORM_DIR", (context.workspace.join platform.file.dir).text),
    ("PLATFORM_OUTPUT_DIR", platform.outputFolder)]

end PlatformContext

end UefiBuild
