import UefiBuild.Workspace.Checks
import UefiBuild.Workspace.Offsets

namespace UefiBuild

structure BuildPlan where
  platforms : List (Shared PlatformContext)
  layout : PcdLayout
  tokens : Table PcdId Nat

namespace BuildPlan

def first? (plan : BuildPlan) : Option PlatformContext := plan.platforms.head?.map Shared.value

def name (plan : BuildPlan) : String := plan.first?.elim "" fun context => context.data.name

def buildFolder? (plan : BuildPlan) : Option HostPath := plan.first?.map PlatformContext.buildFolder

def makeCommand (plan : BuildPlan) : List String := plan.first?.elim [] PlatformContext.makeCommand

end BuildPlan

namespace Workspace

def collectModules (workspace : Workspace) (platform : PlatformContext) (layout : PcdLayout) :
    Build PcdLayout :=
  platform.data.components.keys.foldlM (fun layout file => do
    let context := (← workspace.moduleContext platform file).value
    return layout.collect file context.data.type context.pcds) layout

/-- Collects the items of one architecture after the other. With the last one all items are known,
and their offsets and their order are settled. -/
def collectPlatforms (workspace : Workspace) (tool : OffsetTool) :
    PcdLayout → List String → Build (List (Shared PlatformContext) × PcdLayout)
  | layout, [] => return ([], layout)
  | layout, arch :: others => do
    let platform ← workspace.platformContext arch
    let layout ← workspace.collectModules platform.value layout
    .ofChecked (layout.check platform.value.file)
    let layout ←
      if others.isEmpty then PcdLayout.ordered <$> workspace.stageOffsets platform.value tool layout
      else pure layout
    let (platforms, layout) ← workspace.collectPlatforms tool layout others
    return (platform :: platforms, layout)

def plan (workspace : Workspace) (tool : OffsetTool) : Build BuildPlan := do
  let (platforms, layout) ← workspace.collectPlatforms tool {} workspace.config.arches
  workspace.checkTokenValues (platforms.map Shared.value)
  workspace.checkAccess (platforms.map Shared.value)
  return { platforms, layout, tokens := layout.tokenNumbers }

end Workspace

end UefiBuild
