import UefiBuild.Tools.Table

namespace UefiBuild

structure BuildConfig where
  workspace : HostPath
  platform : SourcePath
  target : String
  toolchain : String
  arches : List String
  sku? : Option String := none
  tools : ToolTable := {}
  flashDefinition? : Option SourcePath := none
  flashPcds : Table PcdId String := ∅
  uniFlag? : Option String := none

structure ConfigDraft where
  workspace? : Option HostPath := none
  platform? : Option SourcePath := none
  target? : Option String := none
  toolchain? : Option String := none
  arches? : Option (List String) := none
  sku? : Option String := none
  tools : ToolTable := {}
  flashDefinition? : Option SourcePath := none
  flashPcds : Table PcdId String := ∅
  uniFlag? : Option String := none

inductive ConfigPart
  | workspace
  | platform
  | target
  | toolchain
  | arches
  deriving DecidableEq

def ConfigDraft.finish (draft : ConfigDraft) : Except ConfigPart BuildConfig := do
  let workspace ← draft.workspace?.elim (.error .workspace) .ok
  let platform ← draft.platform?.elim (.error .platform) .ok
  let target ← draft.target?.elim (.error .target) .ok
  let toolchain ← draft.toolchain?.elim (.error .toolchain) .ok
  let arches ← draft.arches?.elim (.error .arches) .ok
  return {
    workspace, platform, target, toolchain, arches, sku? := draft.sku?, tools := draft.tools
    flashDefinition? := draft.flashDefinition?, flashPcds := draft.flashPcds
    uniFlag? := draft.uniFlag? }

end UefiBuild
