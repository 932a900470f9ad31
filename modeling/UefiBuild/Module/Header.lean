import UefiBuild.Module.Basic

namespace UefiBuild

def specificationName? (define : String) : Option String :=
  if define = "EFI_SPECIFICATION_VERSION" then some "UEFI_SPECIFICATION_VERSION"
  else if define ∈ ["UEFI_SPECIFICATION_VERSION", "PI_SPECIFICATION_VERSION", "EDK_RELEASE_VERSION"]
  then some define
  else none

structure HeaderDraft extends ModuleHeader where
  typeText? : Option String := none
  typeLine : Nat := 0

namespace LibraryClass

def typeWords (value : String) : List String :=
  distinct ((Text.words ((Text.valueList '|' value).getD 1 "")).map Text.upper)

def unknownTypes (value : String) : List String :=
  (typeWords value).filter fun word => (ModuleType.ofText? word).isNone

def ofText (value : String) : LibraryClass where
  name := (Text.valueList '|' value).headD ""
  supported :=
    if (Text.valueList '|' value).getD 1 "" = "" then ModuleType.all
    else (typeWords value).filterMap ModuleType.ofText?

def supports (libraryClass : LibraryClass) (type : ModuleType) : Bool := type ∈ libraryClass.supported

end LibraryClass

namespace HeaderDraft

def readInfVersion (draft : HeaderDraft) (value : String) : Checked HeaderDraft :=
  match (Text.parseInt? value).filter (· < UInt32.size) with
  | some infVersion => .ok { draft with infVersion }
  | none => .error (.of (.infVersion value))

def readMakefile (draft : HeaderDraft) (file : SourcePath) (value : String) : Checked HeaderDraft :=
  match Text.valueList '|' value with
  | family :: name :: _ =>
    if family = "MSFT" ∨ family = "GCC" then
      .ok { draft with makefiles := draft.makefiles.insert family (.inDir file.dir name) }
    else .error (.of (.makefileFamily family))
  | single =>
    let makefile := SourcePath.inDir file.dir (single.headD "")
    .ok { draft with makefiles := (draft.makefiles.insert "MSFT" makefile).insert "GCC" makefile }

def readSpecification (draft : HeaderDraft) (name value : String) : Checked HeaderDraft :=
  match Text.hexVersion? value with
  | some version => .ok { draft with specifications := draft.specifications.insert name version }
  | none => .error (.of (.specificationVersion value name))

def named (names : List String) (value : String) : List String :=
  if value = "" then names else names ++ [value]

def readDefine (draft : HeaderDraft) (file : SourcePath) (record : Record) : Checked HeaderDraft :=
  let value := Text.trim (record.value 1)
  let read : Checked HeaderDraft :=
    match record.value 0 with
    | "BASE_NAME" => .ok { draft with baseName := value }
    | "FILE_GUID" => .ok { draft with guid := value }
    | "MODULE_TYPE" => .ok { draft with typeText? := some value, typeLine := record.line }
    | "INF_VERSION" => draft.readInfVersion value
    | "COMPONENT_TYPE" => .ok { draft with componentType := value }
    | "VERSION_STRING" | "VERSION_NUMBER" | "VERSION" => .ok { draft with version := value }
    | "PCD_IS_DRIVER" => .ok { draft with pcdIsDriver := value }
    | "SHADOW" => .ok { draft with shadow := Text.sameIgnoringAsciiCase value "TRUE" }
    | "LIBRARY_CLASS" => .ok { draft with provided := draft.provided ++ [.ofText value] }
    | "ENTRY_POINT" => .ok { draft with entryPoints := draft.entryPoints ++ [value] }
    | "UNLOAD_IMAGE" => .ok { draft with unloadImages := named draft.unloadImages value }
    | "CONSTRUCTOR" => .ok { draft with constructors := named draft.constructors value }
    | "DESTRUCTOR" => .ok { draft with destructors := named draft.destructors value }
    | "CUSTOM_MAKEFILE" => draft.readMakefile file value
    | "DPX_SOURCE" => .ok { draft with dxsFile? := some (.inDir file.dir value) }
    | other =>
      match specificationName? other with
      | some name => draft.readSpecification name value
      | none => .ok { draft with defines := draft.defines.insert other value }
  read.atLine file record.line

def readDefines (draft : HeaderDraft) (file : SourcePath) : List Record → Checked HeaderDraft
  | [] => .ok draft
  | record :: rest => do (← draft.readDefine file record).readDefines file rest

def unknownTypes (file : SourcePath) : HeaderDraft → List Record → List String
  | _, [] => []
  | draft, record :: rest =>
    let here :=
      if record.value 0 = "LIBRARY_CLASS" then
        LibraryClass.unknownTypes (Text.trim (record.value 1))
      else []
    match draft.readDefine file record with
    | .ok next => here ++ unknownTypes file next rest
    | .error _ => here

def define? (draft : HeaderDraft) (name : String) : Option String := draft.defines.get? name

/-- Modules for option ROMs and modules with HII resources are built in ways of their own. -/
def currentBuildType (draft : HeaderDraft) (type : ModuleType) : String :=
  if ["PCI_DEVICE_ID", "PCI_VENDOR_ID", "PCI_CLASS_CODE"].all fun name => (draft.define? name).isSome then
    "UEFI_OPTIONROM"
  else if draft.define? "UEFI_HII_RESOURCE_SECTION" = some "TRUE" then "UEFI_HII"
  else type.name

def smmCoreSince : Nat := 0x0001000A

def currentType (draft : HeaderDraft) (file : SourcePath) : Checked ModuleType := do
  let text ←
    match draft.typeText?.filter (· ≠ "") with
    | some text => pure text
    | none => throw (Failure.inFile (.of .moduleTypeMissing) file)
  let type ←
    match ModuleType.ofText? text with
    | some type => pure type
    | none => throw (Failure.atLine (.of (.moduleTypeUnsupported text)) file draft.typeLine)
  let piVersion :=
    ((draft.specifications.get? "PI_SPECIFICATION_VERSION").bind Text.parseInt?).getD 0
  if type = .smmCore ∧ piVersion < smmCoreSince then
    throw (Failure.inFile (.of .smmCoreVersion) file)
  return type

def legacyType (draft : HeaderDraft) : ModuleType :=
  match draft.typeText? with
  | some text => (ModuleType.ofText? text).getD .userDefined
  | none => (ModuleType.ofComponentType? draft.componentType).getD .userDefined

/-- A library of the older format serves modules of all types under its own name. -/
def legacyProvided (draft : HeaderDraft) : List LibraryClass :=
  if Text.sameIgnoringAsciiCase draft.componentType "LIBRARY" then
    [{ name := draft.baseName, supported := ModuleType.all }]
  else draft.provided

def finish (draft : HeaderDraft) (file : SourcePath) (arch : String) : Checked Module := do
  if draft.baseName = "" then throw (Failure.inFile (.of .baseNameMissing) file)
  if draft.isLegacy then
    if draft.componentType = "" then throw (Failure.inFile (.of .componentTypeMissing) file)
    return {
      draft.toModuleHeader with
      file, arch, type := draft.legacyType, buildType := Text.upper draft.componentType
      provided := draft.legacyProvided }
  else
    let type ← draft.currentType file
    return { draft.toModuleHeader with file, arch, type, buildType := draft.currentBuildType type }

end HeaderDraft

end UefiBuild
