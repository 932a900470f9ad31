import UefiBuild.Module.Symbols

namespace UefiBuild.Module

/-- The access under which a package declares what a module uses. The general dynamic section takes
the lowest access that the package declares, every other section only its own. -/
def accessIn (part : PcdSection) (id : PcdId) (package : Package) : Access :=
  if part = .dynamic then (package.lowestAccess? id).getD .dynamic else part.access

def declaration? (packages : List Package) (part : PcdSection) (id : PcdId) :
    Option (Package × Access × Pcd) :=
  packages.findSome? fun package =>
    let access := accessIn part id package
    (package.pcd? id access).map fun declared => (package, access, declared)

def otherDeclaration? (packages : List Package) (part : PcdSection) (id : PcdId) :
    Option (Package × Access) :=
  if part = .dynamic then none
  else packages.findSome? fun package =>
    (package.declaredAccess id).head?.map fun declared => (package, declared)

def pcdFromPackages (packages : List Package) (part : PcdSection) (id : PcdId) (value : String)
    (file : SourcePath) (line : Nat) : Checked Pcd :=
  match declaration? packages part id with
  | some (package, access, declared) =>
    match TokenValue.read declared.token with
    | .error fault => .error (Failure.atLine (.of (.tokenInvalid fault id package.file)) file line)
    | .ok _ => .ok {
        id, access? := some access, datumType? := declared.datumType?
        value := if value = "" then declared.value else value
        moduleValue := value, token := declared.token, maxSize? := declared.maxSize?
        pending := part = .dynamic }
  | none =>
    match otherDeclaration? packages part id with
    | some (package, declared) =>
      .error (Failure.atLine (.of (.accessDeclared id part.access file declared package.file)) file line)
    | none =>
      .error (((Failure.of (.pcdUndeclared id file)).atLine file line).withDetail
        ("\t" ++ packageList packages))

def tokenSpaces (packages : List Package) (file : SourcePath) (guids : Table String String)
    (records : List Record) : Checked (Table String String) :=
  records.foldlM (fun guids record =>
    let space := record.pcdId.space
    if guids.contains space then .ok guids
    else
      match SymbolUse.guid.value? packages space with
      | some value => .ok (guids.insert space value)
      | none =>
        .error (symbolFailure packages (.symbolMissing SymbolUse.guid.name space) file record.line)) guids

def pcdSections (store : RecordStore) (packages : List Package) (file : SourcePath) (arch : String)
    (guids : Table String String) : Checked (Table String String × Table PcdId Pcd) :=
  PcdSection.declaring.foldlM (fun (guids, pcds) part => do
    let records := store.query file (.pcds part) (some arch) none
    let guids ← tokenSpaces packages file guids records
    let found ← (pcdSettings records arch).entries.mapM fun (id, setting) => do
      let field ← (SettingForm.plain.fields setting.text).atLine file setting.line
      return (id, ← pcdFromPackages packages part id (field 0) file setting.line)
    return (guids, pcds.insertAll found)) (guids, ∅)

end UefiBuild.Module
