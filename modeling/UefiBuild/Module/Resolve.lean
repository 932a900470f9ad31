import UefiBuild.Catalog
import UefiBuild.Module.Header
import UefiBuild.Module.Pcds

namespace UefiBuild.Module

def sourceFiles (dir : String) (records : List Record) : List SourceFile :=
  records.map fun record =>
    { file := .inDir dir (record.value 0), family := record.value 1, tag := record.value 2
      toolCode := record.value 3 }

def binaryFiles (dir : String) (records : List Record) : List BinaryFile :=
  records.map fun record =>
    let target := (Text.valueList '|' (record.value 2)).headD ""
    { type := record.value 0, file := .inDir dir (record.value 1)
      target := if target = "" then "COMMON" else target }

def usedClasses (records : List Record) : Table String (Option SourcePath) :=
  .ofList (records.map fun record =>
    let suggested := record.value 1
    (record.value 0, if suggested = "" then none else some (SourcePath.ofText suggested)))

def includeFolders (dir arch : String) (records : List Record) : List SourcePath :=
  distinct (records.map fun record =>
    .inDir dir (Text.replace "$(PROCESSOR)" arch (record.value 0)))

def resolveIncludes (module : Module) (records : List Record) : Checked (List SourcePath) :=
  match records with
  | first :: _ =>
    if module.isLegacy then .ok (includeFolders module.file.dir module.arch records)
    else .error (Failure.atLine (.of .includeSection) module.file first.line)
  | [] => .ok []

def packagesOf (module : Module) : List Package := module.packages.map Shared.value

def resolvePackages (store : RecordStore) (file : SourcePath) (arch : String) :
    Resolve (List (Shared Package)) :=
  (store.query file .packages (some arch) none).mapM fun record => do
    let dec := SourcePath.ofText (record.value 0)
    .ofChecked ((dec.validate ".dec").atLine file record.line)
    Catalog.package store dec arch

/-- A module named in a dependency expression stands for its GUID. Why it cannot be resolved is not
told, unless the expressions lead back to where they started. -/
def depexModule (lookup : Lookup Module) (module : Module) (line : Nat) (token : String) :
    Resolve String := do
  tryCatch (do return (← lookup (.ofText token) module.arch).value.guid) fun failure =>
    if failure.cause.isEndless then throw failure
    else throw (((Failure.of .depexModuleMissing).atLine module.file line).withDetail token)

def depexToken (lookup : Lookup Module) (module : Module) (line : Nat) (token : String) :
    Resolve DepexToken := do
  if token ∈ depexWords then return ⟨token, token⟩
  else if Text.endsWith ".inf" token then return ⟨token, ← depexModule lookup module line token⟩
  else
    match depexSymbol? module.packagesOf token with
    | some value => return ⟨token, value⟩
    | none =>
      throw (symbolFailure module.packagesOf (.depexSymbolMissing token) module.file line)

/-- The dependency expressions by architecture and module type; the rows of one kind are joined. -/
def resolveDepex (lookup : Lookup Module) (module : Module) (records : List Record) :
    Resolve (WildcardTable (List DepexToken)) := do
  if module.sources.isEmpty ∧ !module.binaries.isEmpty then return {}
  if module.provided.isEmpty ∧ records.isEmpty ∧ module.type.requiresDepex then
    throw (Failure.inFile (.of (.depexMissing module.type)) module.file)
  let rows ← records.mapM fun record => do
    return ([record.arch, record.scope],
      ← (Text.words (record.value 0)).mapM (depexToken lookup module record.line))
  return { entries := (Table.group rows).mapValues fun _ parts => parts.flatten }

def resolve (store : RecordStore) (lookup : Lookup Module) (file : SourcePath) (arch : String) :
    Resolve Module := do
  let query (place : Section) : List Record := store.query file place (some arch) none
  let defines := query .defines
  (HeaderDraft.unknownTypes file {} defines).forM fun word => Catalog.warn (.unknownLibraryType word)
  let draft ← .ofChecked (HeaderDraft.readDefines {} file defines)
  let module ← .ofChecked (draft.finish file arch)
  let packages ← resolvePackages store file arch
  let values := packages.map Shared.value
  let module := { module with
    packages
    sources := sourceFiles file.dir (query .sources)
    binaries := binaryFiles file.dir (query .binaries)
    libraryClasses := usedClasses (query .libraryClasses)
    libraryNames := distinct ((query .libraryInstances).map fun (record : Record) =>
      (SourcePath.ofText (record.value 0)).baseName) }
  let protocols ← .ofChecked (symbols values .protocol file (query .protocols))
  let ppis ← .ofChecked (symbols values .ppi file (query .ppis))
  let named ← .ofChecked (symbols values .guid file (query .guids))
  let includes ← .ofChecked (module.resolveIncludes (query .includes))
  let (guids, pcds) ← .ofChecked (pcdSections store values file arch named)
  let options : BuildOptions := (query .buildOptions).foldl
    (fun options record => options.append ⟨record.value 0, record.value 1⟩ (record.value 2)) ∅
  let module := { module with protocols, ppis, guids, includes, pcds, options }
  let depex ← resolveDepex lookup module (query .depex)
  return { module with depex }

end UefiBuild.Module
