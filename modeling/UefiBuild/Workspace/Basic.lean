import UefiBuild.Catalog.Request
import UefiBuild.Context.Cache
import UefiBuild.Library.Legacy

namespace UefiBuild

structure Workspace where
  store : RecordStore
  config : BuildConfig

namespace Workspace

def key (workspace : Workspace) (kind : ContextKind) (arch : String) (file : SourcePath) : ContextKey :=
  { kind, target := workspace.config.target, toolchain := workspace.config.toolchain, arch, file }

def module (workspace : Workspace) (file : SourcePath) (arch : String) : Build (Shared Module) :=
  .resolving (Catalog.module workspace.store file arch)

def linked (workspace : Workspace) (platform : Platform) (module : Shared Module) :
    Build (List (Shared Module)) :=
  .resolving (platform.linked workspace.store (Catalog.module workspace.store) module)

def platform (workspace : Workspace) (arch : String) : Build (Shared Platform) := do
  let config := workspace.config
  let shared ← .resolving (Catalog.platform workspace.store config.platform arch config.sku?)
  if config.flashPcds.isEmpty then return shared
  Build.share (config.flashPcds.entries.foldl
    (fun platform (id, value) => platform.addPcd id value) shared.value)

def platformContext (workspace : Workspace) (arch : String) : Build (Shared PlatformContext) :=
  BuildState.platformShelf.request (workspace.key .platform arch workspace.config.platform) do
    let platform ← workspace.platform arch
    .ofChecked (PlatformContext.make workspace.config platform)

/-- The packages that some component of the platform depends on, itself or through a library. -/
def platformPackages (workspace : Workspace) (platform : PlatformContext) :
    Build (Shared (List (Shared Package))) :=
  BuildState.packageShelf.request (workspace.key .packages platform.arch platform.file) do
    let groups ← platform.data.components.keys.mapM fun file => do
      let module ← workspace.module file platform.arch
      let libraries ← workspace.linked platform.data module
      return (module :: libraries).flatMap (·.value.packages)
    return ModuleContext.distinctPackages groups.flatten

def moduleContextWithin (workspace : Workspace) (platform : PlatformContext) :
    Nat → SourcePath → Build (Shared ModuleContext)
  | 0 => fun file => throw (.of (.contextCycle file))
  | depth + 1 => fun file =>
    BuildState.moduleShelf.request (workspace.key .module platform.arch file) do
      let module ← workspace.module file platform.arch
      let libraries ← workspace.linked platform.data module
      let libraries ← libraries.mapM fun library => do
        let context ← moduleContextWithin workspace platform depth library.value.file
        return { library, context := context.serial, own := context.value.module : LinkedLibrary }
      let packages ← workspace.platformPackages platform
      .ofChecked (ModuleContext.make platform module libraries (packages.value.map Shared.value)
        (← get).disk)

/-- No chain of linked modules is longer than there are files, unless it comes back to one of them. -/
def moduleContext (workspace : Workspace) (platform : PlatformContext) :
    SourcePath → Build (Shared ModuleContext) :=
  workspace.moduleContextWithin platform (workspace.store.fileCount + 1)

/-- The context of a module that takes part in the build for an architecture: one that the platform
lists or binds, or one that has a context already. -/
def knownModule? (workspace : Workspace) (file : SourcePath) (arch : String) :
    Build (Option (Shared ModuleContext)) := do
  let platform := (← workspace.platformContext arch).value
  let made := (← get).contexts.modules.contains (workspace.key .module arch file)
  if platform.lists file || file ∈ platform.data.bindings.files || made then
    return some (← workspace.moduleContext platform file)
  return none

def moduleContexts (workspace : Workspace) (arch : String) : Build (List (Shared ModuleContext)) := do
  let platform := (← workspace.platformContext arch).value
  platform.data.components.keys.mapM (workspace.moduleContext platform)

def distinctLibraries (contexts : List ModuleContext) : List LinkedLibrary :=
  (contexts.flatMap (·.libraries)).foldl (fun known linked =>
    if known.any fun other => other.own.value.file = linked.own.value.file then known
    else known ++ [linked]) []

def libraryContexts (workspace : Workspace) (arch : String) : Build (List LinkedLibrary) := do
  let contexts ← workspace.moduleContexts arch
  return distinctLibraries (contexts.map Shared.value)

def packageList (workspace : Workspace) (arch : String) : Build (List (Shared Package)) := do
  let modules ← workspace.moduleContexts arch
  let libraries ← workspace.libraryContexts arch
  return ModuleContext.packagesOf
    (modules.map (·.value.data) ++ libraries.map fun linked => linked.own.value)

end Workspace

end UefiBuild
