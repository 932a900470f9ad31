import UefiBuild.Failure
import UefiBuild.Record
import UefiBuild.Wildcard

namespace UefiBuild

/-- The named values of a section. A value for the very architecture goes before a common one, and
the names keep the order in which they first appear. -/
def symbolTable (store : RecordStore) (file : SourcePath) (place : Section) (arch : String) :
    Table String String :=
  let records := store.query file place (some arch) none
  let values : WildcardTable String :=
    records.foldl (fun t record => t.insert [record.arch, record.value 0] (record.value 1)) {}
  .ofList ((distinct (records.map (·.value 0))).filterMap fun name =>
    (values.resolve? [arch, name]).map (name, ·))

structure PlacedSetting where
  text : String
  line : Nat
  deriving DecidableEq

def Record.pcdId (record : Record) : PcdId := ⟨record.value 1, record.value 0⟩

def Record.setting (record : Record) : PlacedSetting := ⟨record.value 2, record.line⟩

def pcdSettings (records : List Record) (arch : String) : Table PcdId PlacedSetting :=
  let settings : WildcardTable PlacedSetting :=
    records.foldl (fun t record =>
      t.insert [record.arch, record.pcdId.name, record.pcdId.space] record.setting) {}
  .ofList ((distinct (records.map Record.pcdId)).filterMap fun id =>
    (settings.resolve? [arch, id.name, id.space]).map (id, ·))

structure Package where
  file : SourcePath
  arch : String
  name : String
  guid : String
  version : String
  protocols : Table String String
  ppis : Table String String
  guids : Table String String
  includes : List SourcePath
  libraryClasses : Table String SourcePath
  pcds : Table (PcdId × Access) Pcd

namespace Package

def lastDefine? (defines : List Record) (name : String) : Option String :=
  (defines.filter (·.value 0 = name)).getLast?.map (·.value 1)

def requireDefine (file : SourcePath) (defines : List Record) (name : String) (missing : Cause) :
    Checked String :=
  match (lastDefine? defines name).filter (· ≠ "") with
  | some value => .ok value
  | none => .error (Failure.inFile (.of missing) file)

def declaredPcd (file : SourcePath) (access : Access) (id : PcdId) (setting : PlacedSetting) :
    Checked Pcd := do
  let field ← (SettingForm.plain.fields setting.text).atLine file setting.line
  let datumType? ← (DatumType.readOptional (field 1)).atLine file setting.line
  return { id, access? := some access, datumType?, value := field 0, token := field 2 }

def declaredPcds (store : RecordStore) (file : SourcePath) (arch : String) :
    Checked (Table (PcdId × Access) Pcd) := do
  let settings := PcdSection.declaring.flatMap fun part =>
    (pcdSettings (store.query file (.pcds part) (some arch) none) arch).entries.map (part.access, ·)
  let pcds ← settings.mapM fun (access, id, setting) => do
    return ((id, access), ← declaredPcd file access id setting)
  return .ofList pcds

def resolve (store : RecordStore) (file : SourcePath) (arch : String) : Checked Package := do
  let defines := store.query file .defines (some arch) none
  let name ← requireDefine file defines "PACKAGE_NAME" .packageNameMissing
  let guid ← requireDefine file defines "PACKAGE_GUID" .packageGuidMissing
  let includes := (store.query file .includes (some arch) none).map fun record =>
    SourcePath.inDir file.dir (record.value 0)
  let pcds ← declaredPcds store file arch
  return {
    file, arch, name, guid, pcds
    version := (lastDefine? defines "PACKAGE_VERSION").getD ""
    protocols := symbolTable store file .protocols arch
    ppis := symbolTable store file .ppis arch
    guids := symbolTable store file .guids arch
    includes := distinct includes
    libraryClasses := (symbolTable store file .libraryClasses arch).mapValues fun _ header =>
      .inDir file.dir header }

def pcd? (package : Package) (id : PcdId) (access : Access) : Option Pcd :=
  package.pcds.get? (id, access)

def declaredAccess (package : Package) (id : PcdId) : List Access :=
  (package.pcds.keys.filter (·.1 = id)).map Prod.snd

def lowestAccess? (package : Package) (id : PcdId) : Option Access :=
  Access.declarable.find? fun access => (package.pcd? id access).isSome

def guidValue? (package : Package) (name : String) : Option String :=
  (package.guids.get? name).or ((package.protocols.get? name).or (package.ppis.get? name))

end Package

end UefiBuild
