import UefiBuild.Platform.Basic

namespace UefiBuild

def Access.isFlavourOf (access other : Access) : Bool :=
  match other with
  | .dynamic => access.isDynamic
  | .dynamicEx => access.isDynamicEx
  | other => access = other

/-- A setting that does not fit, with the item as far as it had been changed. -/
structure Refusal where
  failure : Failure
  item : Pcd

namespace Pcd

/-- The access of an item under a setting; nothing if the two exclude each other. A pending item
takes what the setting says. Of the others only `DynamicEx` is narrowed to a flavour of itself. -/
def mergedAccess? (item setting : Pcd) : Option (Option Access) :=
  match item.access?, setting.access? with
  | mine?, none => some mine?
  | none, some theirs => some (some theirs)
  | some mine, some theirs =>
    if item.pending ∨ mine = theirs then some (some theirs)
    else if theirs.isFlavourOf mine then some (some (if mine = .dynamicEx then theirs else mine))
    else none

def mergeFields (item setting : Pcd) : Pcd :=
  { item with
    maxSize? := (setting.maxSize?.filter (· ≠ "")).or item.maxSize?
    value := if setting.value = "" then item.value else setting.value
    token := if setting.token = "" then item.token else setting.token
    datumType? := setting.datumType?.or item.datumType?
    skus := if setting.skus.isEmpty then item.skus else setting.skus }

def completeSize (item : Pcd) : Pcd :=
  if item.datumType? = some .blob ∧ item.maxSize?.getD "" = "" then
    { item with maxSize? := some (toString (Blob.derivedSize item.value).toNat) }
  else item

def completeSkus (platform : Platform) (item : Pcd) : Pcd :=
  if item.isDynamic ∧ item.skus.isEmpty then
    let skuName := if platform.skuIds.contains platform.skuName then platform.skuName else "DEFAULT"
    let skuId := (platform.skuIds.get? skuName).getD "0"
    { item with skus := Table.empty.insert skuName { skuName, skuId, value := item.value } }
  else item

def checkValue (platform : Platform) (item : Pcd) : Checked Unit :=
  match item.datumType? with
  | none => .ok ()
  | some type =>
    (type.check item.value).mapError fun fault =>
      (Failure.inFile (.of (.datumRejected fault)) platform.file).withDetail item.fullName

def accessFailure (platform : Platform) (item setting : Pcd) (module : SourcePath) : Failure :=
  let name (pcd : Pcd) : String := pcd.access?.elim "" Access.name
  (Failure.inFile (.of .accessMismatch) platform.file).withDetail
    (s!"{item.fullName} is defined as [{name item}] in module {module.text}, " ++
      s!"but as [{name setting}] in platform.")

def merge (platform : Platform) (item setting : Pcd) (module : SourcePath) : Except Refusal Pcd :=
  match item.mergedAccess? setting with
  | none => .error { failure := accessFailure platform item setting module, item }
  | some access? =>
    let merged := { item with access? }.mergeFields setting
    match merged.checkValue platform with
    | .error failure => .error { failure, item := merged }
    | .ok () => .ok merged

def override (platform : Platform) (item : Pcd) (setting? : Option Pcd) (module : SourcePath) :
    Except Refusal Pcd := do
  let merged ← setting?.elim (.ok item) fun setting => item.merge platform setting module
  return merged.completeSize.completeSkus platform

end Pcd

namespace Platform

def variableGuidFailure (platform : Platform) (packages : List Package) (id : PcdId) (guid : String)
    (module : SourcePath) : Failure :=
  let files := Text.join "\n\t" (packages.map fun package => package.file.text)
  (Failure.inFile (.of (.variableGuidMissing guid)) platform.file).withDetail
    (files ++ s!"\n\t(used with {id.fullName} from module {module.text})")

def resolveSku (platform : Platform) (packages : List Package) (module : SourcePath) (id : PcdId)
    (sku : SkuValue) : Checked SkuValue :=
  if sku.variableGuid = "" then .ok sku
  else
    match packages.findSome? (·.guidValue? sku.variableGuid) with
    | some value => .ok { sku with variableGuidValue := value }
    | none => .error (platform.variableGuidFailure packages id sku.variableGuid module)

def resolveSkus (platform : Platform) (packages : List Package) (module : SourcePath) (id : PcdId)
    (item : Pcd) : Checked Pcd := do
  let skus ← item.skus.entries.mapM fun (name, sku) => do
    return (name, ← platform.resolveSku packages module id sku)
  return { item with skus := .ofList skus }

def override (platform : Platform) (module : SourcePath) (item : Pcd) (setting? : Option Pcd) :
    Checked Pcd :=
  (item.override platform setting? module).mapError Refusal.failure

def applySetting (platform : Platform) (module : SourcePath) (packages : List Package) (id : PcdId)
    (item : Pcd) : Checked Pcd := do
  let item ← platform.override module item (platform.pcds.get? id)
  platform.resolveSkus packages module id item

/-- The items of a module under the settings of the platform and then under those for the module. -/
def applySettings (platform : Platform) (module : SourcePath) (pcds : Table PcdId Pcd)
    (packages : List Package) : Checked (List Pcd) := do
  let items ← pcds.entries.mapM fun (id, item) => do
    return (id, ← platform.applySetting module packages id item)
  let own := (platform.components.get? module).elim [] (·.pcds.entries)
  let items ← own.foldlM (fun items (id, setting) =>
    match items.get? id with
    | none => Except.ok items
    | some item => do return items.insert id (← platform.override module item (some setting)))
    (Table.ofList items)
  return items.values

end Platform

end UefiBuild
