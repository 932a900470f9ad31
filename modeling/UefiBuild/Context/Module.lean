import UefiBuild.Context.Platform
import UefiBuild.Depex
import UefiBuild.Override

namespace UefiBuild

/-- A library that a module links, with the serial of the library's own context and the module of that. -/
structure LinkedLibrary where
  library : Shared Module
  context : Nat
  own : Shared Module

structure ModuleContext where
  module : Shared Module
  platform : Shared Platform
  workspace : HostPath
  target : String
  toolchain : String
  toolFamily : String
  arch : String
  buildFolder : HostPath
  outputFolder : HostPath
  debugFolder : HostPath
  sourceOverride? : Option HostPath
  makefiles : Table String HostPath
  makeVariables : Table String String
  libraries : List LinkedLibrary
  packages : List (Shared Package)
  modulePcds : List Pcd
  libraryPcds : List Pcd
  guids : Table String String
  protocols : Table String String
  ppis : Table String String
  includePaths : List HostPath
  sources : List SourceFile
  binaries : List BinaryFile
  depex : Option (List String)
  depexText : Option String
  options : ToolOptions

namespace ModuleContext

def data (context : ModuleContext) : Module := context.module.value

def file (context : ModuleContext) : SourcePath := context.data.file

def pcds (context : ModuleContext) : List Pcd := context.modulePcds ++ context.libraryPcds

def libraryModules (context : ModuleContext) : List Module :=
  context.libraries.map fun linked => linked.library.value

def distinctPackages (packages : List (Shared Package)) : List (Shared Package) :=
  (packages.foldl (fun known package =>
    if known.any fun other => other.value.file = package.value.file then known else known ++ [package]) [])

def packagesOf (modules : List Module) : List (Shared Package) :=
  distinctPackages (modules.flatMap Module.packages)

/-- The items that only libraries use, each as the first of them uses it. -/
def libraryOnly (module : Module) (libraries : List Module) : Table PcdId Pcd :=
  libraries.foldl (fun known library =>
    library.pcds.entries.foldl (fun known (id, pcd) =>
      if module.pcds.contains id || known.contains id then known else known.insert id pcd) known) ∅

/-- The symbols of a module and its libraries. A library's value replaces an earlier one. -/
def symbols (table : Module → Table String String) (module : Module) (libraries : List Module) :
    Table String String :=
  libraries.foldl (fun known library => known.insertAll (table library).entries) (table module)

/-- The makefile in the override folder goes before the module's own. -/
def makefilesOf (module : Module) (sourceOverride? : Option HostPath) (workspace : HostPath)
    (disk : Disk) : Table String HostPath :=
  .ofList (module.makefiles.entries.map fun (family, file) =>
    let overriding := (sourceOverride?.map (·.join file.fileName)).filter disk.present
    (if family = "GCC" then "gmake" else "nmake", overriding.getD (file.onHost workspace)))

def addPath (paths : List HostPath) (path : HostPath) : List HostPath :=
  if paths.any path.sameSteps then paths else paths ++ [path]

def ownIncludePaths (module : Module) (workspace : HostPath) (arch : String) (disk : Disk) :
    List HostPath :=
  if module.isLegacy then
    module.includes.flatMap fun folder =>
      let path := folder.onHost workspace
      path :: [path.join (Text.capitalize arch)].filter disk.present
  else [workspace.join module.file.dir]

def packagePaths (workspace : HostPath) (package : Package) : List HostPath :=
  workspace.join package.file.dir :: package.includes.map (·.onHost workspace)

def sourcePaths (module : Module) (workspace : HostPath) (sources : List SourceFile)
    (paths : List HostPath) : List HostPath :=
  if module.isLegacy then paths
  else
    sources.foldl (fun paths source =>
      let path := workspace.join source.file.dir
      if paths.any path.sameSteps then paths else path :: paths) paths

def selectedSources (module : Module) (toolchain toolFamily : String) : List SourceFile :=
  module.sources.filter fun source =>
    source.tag ∈ ["", "*", toolchain] && source.family ∈ ["", "*", toolFamily]

def selectedBinaries (module : Module) (target : String) : List BinaryFile :=
  module.binaries.filter fun binary => binary.target ∈ ["COMMON", "*", target]

def makeVariablesOf (context : ModuleContext) (platform : PlatformContext) : Table String String :=
  let module := context.data
  let binaries := (platform.buildFolder.join context.arch).text
  let own : Table String String := .ofList [
    ("WORKSPACE", context.workspace.text), ("MODULE_NAME", module.baseName),
    ("MODULE_GUID", module.guid), ("MODULE_VERSION", module.version),
    ("MODULE_TYPE", module.type.name), ("MODULE_FILE", (module.file.onHost context.workspace).text),
    ("MODULE_DIR", (context.workspace.join module.file.dir).text), ("BASE_NAME", module.baseName),
    ("ARCH", context.arch), ("TOOLCHAIN", context.toolchain), ("TOOLCHAIN_TAG", context.toolchain),
    ("TARGET", context.target), ("BUILD_DIR", platform.buildFolder.text), ("BIN_DIR", binaries),
    ("LIB_DIR", binaries), ("MODULE_BUILD_DIR", context.buildFolder.text),
    ("OUTPUT_DIR", context.outputFolder.text), ("DEBUG_DIR", context.debugFolder.text)]
  own.insertAll platform.makeVariables.entries

def make (platform : PlatformContext) (shared : Shared Module) (libraries : List LinkedLibrary)
    (platformPackages : List Package) (disk : Disk) : Checked ModuleContext := do
  let module := shared.value
  let workspace := platform.workspace
  let linked := libraries.map fun linked => linked.library.value
  let buildFolder := ((platform.buildFolder.join platform.arch).join module.file.dir).join module.baseName
  let debugFolder := buildFolder.join "DEBUG"
  let component? := platform.data.components.get? module.file
  let sourceOverride? := (component?.bind (·.sourceOverride?)).map (·.onHost workspace)
  let packages := packagesOf (module :: linked)
  let modulePcds ← platform.data.applySettings module.file module.pcds platformPackages
  let libraryPcds ← platform.data.applySettings module.file (libraryOnly module linked) platformPackages
  let folders := ownIncludePaths module workspace platform.arch disk ++ [debugFolder]
  let folders := (packages.flatMap fun package => packagePaths workspace package.value).foldl addPath folders
  let sources := selectedSources module platform.toolchain platform.toolFamily
  let options ← platform.moduleOptions module
  let context : ModuleContext := {
    module := shared, platform := platform.platform, workspace, target := platform.target
    toolchain := platform.toolchain, toolFamily := platform.toolFamily, arch := platform.arch
    buildFolder, outputFolder := buildFolder.join "OUTPUT", debugFolder, sourceOverride?
    makefiles := makefilesOf module sourceOverride? workspace disk
    makeVariables := ∅, libraries, packages, modulePcds, libraryPcds
    guids := symbols (·.guids) module linked
    protocols := symbols (·.protocols) module linked
    ppis := symbols (·.ppis) module linked
    includePaths := sourcePaths module workspace sources folders
    sources, binaries := selectedBinaries module platform.target
    depex := module.mergedDepex linked platform.arch
    depexText := module.mergedDepexText linked platform.arch
    options }
  return { context with makeVariables := context.makeVariablesOf platform }

end ModuleContext

end UefiBuild
