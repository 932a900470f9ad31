import UefiBuild.Vpd.OffsetFile
import UefiBuild.Vpd.Tool
import UefiBuild.Pcd.Layout
import UefiBuild.Workspace.Basic

namespace UefiBuild

structure OffsetStage where
  layout : PcdLayout
  file : OffsetFile := {}
  needsMap : Bool := false

namespace OffsetStage

def flashIds (platform : Platform) : List PcdId :=
  let ids := (platform.pcds.entries.filter fun (_, pcd) => pcd.isVpd).map Prod.fst
  ids.mergeSort fun a b =>
    if a.name = b.name then !decide (b.space < a.space) else !decide (b.name < a.name)

def formatFailure (platform : Platform) (pcd : Pcd) : Failure :=
  (Failure.inFile (.of .pcdSettings) platform.file).withDetail
    s!"\n\tPCD: {pcd.fullName} format incorrect in DSC: {platform.file.text}\n\t\t\n"

def trimOffset (sku : SkuValue) : SkuValue := { sku with vpdOffset := Text.trim sku.vpdOffset }

/-- An item of a fixed width is written as `Offset|Value`, so that its value stands where the size of
a blob would be. -/
def placeValue (platform : Platform) (pcd : Pcd) : Checked Pcd :=
  let trimmed := pcd.mapFirstSku trimOffset
  if pcd.datumType?.all (· = .blob) then .ok trimmed
  else if trimmed.firstSkuValue = "" then
    .ok { trimmed.mapFirstSku fun sku => { sku with value := pcd.maxSize?.getD "" } with
      maxSize? := none }
  else .error (formatFailure platform pcd)

def firstOffset (pcd : Pcd) : String := pcd.firstSku?.elim "" SkuValue.vpdOffset

def setPcd (layout : PcdLayout) (pcd : Pcd) : PcdLayout :=
  { layout with dynamic := layout.dynamic.map fun item =>
      if item.pcd.id = pcd.id then { item with pcd } else item }

def stage (stage : OffsetStage) (pcd : Pcd) (offset : String) : OffsetStage :=
  { stage with
    file := stage.file.add pcd offset
    needsMap := stage.needsMap || offset = OffsetFile.auto }

def stageUsed (platform : Platform) (state : OffsetStage) (id : PcdId) : Checked OffsetStage := do
  match (state.layout.dynamic.find? fun item => item.pcd.id = id).filter
      fun item => item.pcd.firstSku?.isSome with
  | none => return state
  | some item =>
    let pcd ← placeValue platform item.pcd
    let next := { state with layout := setPcd state.layout pcd }.stage pcd (firstOffset pcd)
    if next.needsMap ∧ !state.needsMap ∧ platform.vpdToolGuid?.isNone then
      throw (.of .offsetToolMissing)
    return next

def completeUnused (pcd declared : Pcd) : Pcd :=
  { pcd with datumType? := declared.datumType?, value := declared.value }.mapFirstSku fun sku =>
    if sku.value = "" then { sku with value := declared.value } else sku

def stageUnused (platform : Platform) (packages : List Package) (state : OffsetStage) (id : PcdId) :
    Build OffsetStage := do
  if state.file.contains id then return state
  match platform.pcds.get? id with
  | none => return state
  | some pcd =>
    let declarations := (packages.flatMap (·.pcds.values)).filter fun declared => declared.id = id
    declarations.forM fun _ => Build.warn .unreferencedVpd
    let pcd := declarations.foldl completeUnused pcd
    return state.stage pcd (Text.trim (firstOffset pcd))

def assignOffsets (file : OffsetFile) (map : SourcePath) (pcd : Pcd) : Checked Pcd := do
  let skus ← pcd.skus.entries.zipIdx.mapM fun ((name, sku), index) => do
    if Text.trim sku.vpdOffset ≠ OffsetFile.auto then return (name, sku)
    match file.offset? pcd.id index with
    | some offset => return (name, { sku with vpdOffset := offset })
    | none => throw (Failure.inFile (.of (.offsetNotGiven pcd.id sku.skuName)) map)
  return { pcd with skus := .ofList skus }

end OffsetStage

namespace PlatformContext

def offsetTool (context : PlatformContext) (guid : String) : Checked String :=
  match context.tools.entries.find? fun (_, attributes) => attributes.get? "GUID" = some guid with
  | none => .error (.of .offsetToolMissing)
  | some (name, attributes) =>
    (attributes.get? "PATH").elim (.error (.of (.offsetToolPath name))) .ok

end PlatformContext

namespace Workspace

def changeDisk {ε : Type} (change : Disk → Except ε Disk) (failure : ε → Failure) : Build Unit := do
  match change (← get).disk with
  | .ok disk => modify fun state => { state with disk }
  | .error error => throw (failure error)

def runTool (tool : OffsetTool) (path : String) (input : HostPath) : Build Unit := do
  let (result, disk) := tool.run path input (← get).disk
  modify fun state => { state with disk, toolCalls := state.toolCalls ++ [(path, input)] }
  .ofChecked result

def readOffsets (file : OffsetFile) (layout : PcdLayout) (map : HostPath) : Build PcdLayout := do
  let disk := (← get).disk
  if !disk.present map then throw (.of (.offsetMapMissing map))
  let (file, result) := file.readFrom disk map
  .ofChecked result
  let dynamic ← layout.dynamic.mapM fun item => do
    let pcd ← .ofChecked (OffsetStage.assignOffsets file (.ofText map.text) item.pcd)
    return { item with pcd }
  return { layout with dynamic }

def fixOffsets (platform : PlatformContext) (tool : OffsetTool) (stage : OffsetStage) :
    Build PcdLayout := do
  if platform.flashDefinition?.isNone then throw (.of (.flashDefinitionMissing platform.file))
  let folder := platform.buildFolder.join "FV"
  changeDisk (·.makeFolders folder) fun _ => .of (.offsetFolder platform.buildFolder)
  let guid ← platform.data.vpdToolGuid?.elim (throw (.of .offsetToolMissing)) pure
  let input := folder.join s!"{guid}.txt"
  changeDisk (stage.file.write · input) id
  let path ← .ofChecked (platform.offsetTool guid)
  runTool tool path input
  if stage.needsMap then readOffsets stage.file stage.layout (folder.join s!"{guid}.map")
  else return stage.layout

/-- Settles the offsets of all items that the platform keeps in flash. -/
def stageOffsets (workspace : Workspace) (platform : PlatformContext) (tool : OffsetTool)
    (layout : PcdLayout) : Build PcdLayout := do
  let data := platform.data
  let ids := OffsetStage.flashIds data
  let used ← .ofChecked (ids.foldlM (OffsetStage.stageUsed data) { layout })
  let staged ←
    if data.vpdToolGuid?.isSome then do
      let packages ← workspace.packageList platform.arch
      ids.foldlM (OffsetStage.stageUnused data (packages.map Shared.value)) used
    else pure used
  if staged.file.count = 0 then return staged.layout
  fixOffsets platform tool staged

end Workspace

end UefiBuild
