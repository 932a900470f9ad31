import UefiBuild.Catalog

namespace UefiBuild

def isGuidText (s : String) : Bool :=
  (Text.split '-' s).map String.length = [8, 4, 4, 4, 12] &&
    s.toList.all fun c => c = '-' || (Text.digit? 16 c).isSome

namespace PlatformHeader

def nonEmptyValues (value : String) : List String := (Text.valueList '|' value).filter (· ≠ "")

def readOutputFolder (header : PlatformHeader) (value : String) : Checked PlatformHeader :=
  if Text.contains value " " then .error ((Failure.of .spaceInOutputFolder).withDetail value)
  else .ok { header with outputFolder := Text.replace "\\" "/" value }

def readFlashDefinition (header : PlatformHeader) (value : String) : Checked PlatformHeader := do
  let file := SourcePath.ofText value
  file.validate ".fdf"
  return { header with flashDefinition? := some file }

def readVpdTool (header : PlatformHeader) (value : String) : Checked PlatformHeader :=
  if isGuidText value then .ok { header with vpdToolGuid? := some value }
  else .error (.of .vpdToolGuid)

def readDefine (header : PlatformHeader) (file : SourcePath) (record : Record) :
    Checked PlatformHeader :=
  let value := Text.trim (record.value 1)
  let read : Checked PlatformHeader :=
    match record.value 0 with
    | "PLATFORM_NAME" => .ok { header with name := value }
    | "PLATFORM_GUID" => .ok { header with guid := value }
    | "PLATFORM_VERSION" => .ok { header with version := value }
    | "DSC_SPECIFICATION" => .ok { header with specification := value }
    | "OUTPUT_DIRECTORY" => header.readOutputFolder value
    | "FLASH_DEFINITION" => header.readFlashDefinition value
    | "SUPPORTED_ARCHITECTURES" => .ok { header with arches := nonEmptyValues value }
    | "BUILD_TARGETS" => .ok { header with targets := nonEmptyValues value }
    | "SKUID_IDENTIFIER" => .ok { header with skuChoice? := some value }
    | "VPD_TOOL_GUID" => header.readVpdTool value
    | _ => .ok header
  read.atLine file record.line

def readDefines (file : SourcePath) (records : List Record) : Checked PlatformHeader := do
  let header ← records.foldlM (fun header record => readDefine header file record) {}
  if header.name = "" then throw (Failure.inFile (.of .platformNameMissing) file)
  if header.guid = "" then throw (Failure.inFile (.of .platformGuidMissing) file)
  if header.outputFolder = "" then
    return { header with outputFolder := "Build/" ++ header.name }
  return header

end PlatformHeader

def LibraryBindings.bind (bindings : LibraryBindings) (record : Record) (libraryClass : String)
    (library : SourcePath) : LibraryBindings :=
  { bindings with
    instances := bindings.instances.insert [record.arch, record.scope, libraryClass] library
    classes := addNew bindings.classes libraryClass
    files := addNew bindings.files library }

namespace Platform

def defaultSku : String := "DEFAULT"

def readSkuIds (file : SourcePath) (records : List Record) : Checked (Table String String) := do
  let ids ← records.mapM fun record => do
    if record.value 0 = "" then throw (Failure.atLine (.of .skuNumberMissing) file record.line)
    if record.value 1 = "" then throw (Failure.atLine (.of .skuNameMissing) file record.line)
    return (record.value 1, record.value 0)
  let ids := Table.ofList ids
  return if ids.contains defaultSku then ids else ids.insert defaultSku "0"

def chooseSku (ids : Table String String) (choices : List String) : String :=
  (choices.find? ids.contains).getD defaultSku

def instanceFile (file : SourcePath) (record : Record) (index : Nat) : Checked SourcePath := do
  let library := SourcePath.ofText (record.value index)
  (library.validate ".inf").atLine file record.line
  return library

/-- Instances that are forced on all modules get classes of their own, numbered in order. -/
def bindingClass (record : Record) (forced : Nat) : String × Nat :=
  let name := record.value 0
  if name = "" ∨ name = "NULL" then (s!"NULL{forced + 1}", forced + 1) else (name, forced)

def bindRow (file : SourcePath) (state : LibraryBindings × Nat) (record : Record) :
    Checked (LibraryBindings × Nat) := do
  let library ← instanceFile file record 1
  let (libraryClass, forced) := bindingClass record state.2
  if record.scope ≠ "COMMON" ∧ (ModuleType.ofText? record.scope).isNone then
    throw (((Failure.of (.bindingModuleType record.scope)).atLine file record.line).withDetail
      library.text)
  return (state.1.bind record libraryClass library, forced)

def bindLegacy (lookup : Lookup Module) (file : SourcePath) (arch : String)
    (bindings : LibraryBindings) (record : Record) : Resolve LibraryBindings := do
  let library ← .ofChecked (instanceFile file record 0)
  let module ← lookup library arch
  return { bindings with
    files := addNew bindings.files library
    legacy := bindings.legacy.insert module.value.baseName library }

def bindOwn (file : SourcePath) (state : Table String SourcePath × List SourcePath × Nat)
    (record : Record) : Checked (Table String SourcePath × List SourcePath × Nat) := do
  let (own, files, forced) := state
  let library ← instanceFile file record 1
  let (libraryClass, forced) := bindingClass record forced
  return (own.insert libraryClass library, addNew files library, forced)

def componentPcd (part : PcdSection) (record : Record) : Pcd :=
  let fields := Text.valueList '|' (record.value 2)
  { id := record.pcdId, access? := some part.access, value := fields.headD ""
    maxSize? := fields[1]?.filter (· ≠ "") }

structure ComponentList where
  components : Table SourcePath Component := ∅
  files : List SourcePath := []
  forced : Nat := 0

def addComponent (store : RecordStore) (file : SourcePath) (arch : String) (list : ComponentList)
    (record : Record) : Checked ComponentList := do
  let module ← instanceFile file record 0
  if list.components.contains module then
    throw (((Failure.of (.componentRepeated module)).atLine file record.line).withDetail module.text)
  let own (place : Section) : List Record := store.query file place (some arch) (some record.id)
  let (libraryClasses, files, forced) ←
    (own .libraryClasses).foldlM (bindOwn file) (∅, list.files, list.forced)
  let pcds := PcdSection.declaring.flatMap fun part => (own (.pcds part)).map (componentPcd part)
  let component : Component := {
    file := module, id := record.id, libraryClasses
    sourceOverride? := (own .sourceOverridePaths).head?.map fun row => .ofText (row.value 0)
    pcds := .ofList (pcds.map fun pcd => (pcd.id, pcd))
    options := (own .buildOptions).foldl
      (fun options row => options.append ⟨row.value 0, row.value 1⟩ (row.value 2)) ∅ }
  return { components := list.components.insert module component, files, forced }

def plainPcd (file : SourcePath) (part : PcdSection) (id : PcdId) (setting : PlacedSetting) :
    Checked Pcd := do
  let field ← (SettingForm.plain.fields setting.text).atLine file setting.line
  let datumType? ← (DatumType.readOptional (field 1)).atLine file setting.line
  return {
    id, access? := some part.access, datumType?, value := field 0
    maxSize? := some (field 2) |>.filter (· ≠ "") }

def settingForm (part : PcdSection) : SettingForm :=
  match part with
  | .dynamicHii | .dynamicExHii => .hii
  | .dynamicVpd | .dynamicExVpd => .vpd
  | _ => .plain

/-- The setting of a dynamic item for one stock keeping unit. The datum type of an item in flash is
not known here, so what follows its offset is kept as it is written. -/
def skuPcd (file : SourcePath) (skuName skuId : String) (part : PcdSection) (id : PcdId)
    (setting : PlacedSetting) : Checked Pcd := do
  let form := settingForm part
  let field ← (form.fields setting.text).atLine file setting.line
  let base : Pcd := { id, access? := some part.access }
  let sku : SkuValue := { skuName, skuId }
  let skus (sku : SkuValue) : Table String SkuValue := Table.empty.insert skuName sku
  match form with
  | .hii =>
    return { base with
      value := field 3
      skus := skus { sku with
        variableName := field 0, variableGuid := field 1, variableOffset := field 2
        hiiDefault := field 3 } }
  | .vpd =>
    return { base with
      maxSize? := some (field 1) |>.filter (· ≠ "")
      skus := skus { sku with vpdOffset := field 0, value := field 2 } }
  | .plain =>
    let datumType? ← (DatumType.readOptional (field 1)).atLine file setting.line
    return { base with
      datumType?, value := field 0
      maxSize? := some (field 2) |>.filter (· ≠ "")
      skus := skus { sku with value := field 0 } }

def skuSettings (records : List Record) (arch skuName : String) : List (PcdId × PlacedSetting) :=
  let settings : WildcardTable PlacedSetting :=
    records.foldl (fun t record =>
      t.insert [record.arch, record.scope, record.pcdId.name, record.pcdId.space] record.setting) {}
  (distinct (records.map Record.pcdId)).filterMap fun id =>
    (settings.resolve? [arch, skuName, id.name, id.space]).map (id, ·)

def resolvePcds (store : RecordStore) (file : SourcePath) (arch skuName skuId : String) :
    Checked (Table PcdId Pcd) := do
  let records (part : PcdSection) : List Record := store.query file (.pcds part) (some arch) none
  let plain ← (PcdSection.perPlatform.flatMap fun part =>
    (pcdSettings (records part) arch).entries.map (part, ·)).mapM
      fun (part, id, setting) => plainPcd file part id setting
  let dynamic ← (PcdSection.perSku.flatMap fun part =>
    (skuSettings (records part) arch skuName).map (part, ·)).mapM
      fun (part, id, setting) => skuPcd file skuName skuId part id setting
  return .ofList ((plain ++ dynamic).map fun pcd => (pcd.id, pcd))

def readOptions (file : SourcePath) (records : List Record) :
    Checked (Table (OptionId × ModuleStyle) String) := do
  let options ← records.mapM fun record => do
    let style ← (ModuleStyle.read record.scope).atLine file record.line
    return ((⟨record.value 0, record.value 1⟩, style), record.value 2)
  return .ofList options

def resolve (store : RecordStore) (lookup : Lookup Module) (file : SourcePath) (arch : String)
    (sku? : Option String) : Resolve Platform := do
  let query (place : Section) : List Record := store.query file place (some arch) none
  let header ← .ofChecked (PlatformHeader.readDefines file (query .defines))
  let skuIds ← .ofChecked (readSkuIds file (store.query file .skuIds none none))
  let skuName := chooseSku skuIds ([sku?, header.skuChoice?].filterMap id)
  let (bindings, forced) ← .ofChecked ((query .libraryClasses).foldlM (bindRow file) ({}, 0))
  let bindings ← (query .libraryInstances).foldlM (bindLegacy lookup file arch) bindings
  let list ← .ofChecked ((query .components).foldlM (addComponent store file arch)
    { files := bindings.files, forced })
  let pcds ← .ofChecked (resolvePcds store file arch skuName ((skuIds.get? skuName).getD ""))
  let options ← .ofChecked (readOptions file (query .buildOptions))
  return {
    header with
    file, arch, skuName, skuIds, pcds, options
    components := list.components
    bindings := { bindings with files := list.files } }

end Platform

end UefiBuild
