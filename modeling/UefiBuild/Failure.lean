import UefiBuild.Disk
import UefiBuild.ModuleType
import UefiBuild.Pcd.Basic
import UefiBuild.Text.ValueList

namespace UefiBuild

inductive FailureKind
  | formatInvalid
  | formatNotSupported
  | attributeNotAvailable
  | resourceNotAvailable
  | optionConflict
  | optionMissing
  | optionUnknown
  | fileNotFound
  | fileDuplicated
  | fileWriteFailure
  | fileReadFailure
  | build
  | generation
  | machine
  deriving DecidableEq, Inhabited

inductive Cause
  | accessUnknown (text : String)
  | datumTypeUnknown (text : String)
  | moduleTypeUnknown (text : String)
  | settingTooLong (form : SettingForm) (setting : String)
  | optionKey (key : String)
  | toolLine (number : Nat) (line : String)
  | toolKey (number : Nat) (key : String)
  | pathEmpty
  | fileExtension (found expected : String)
  | fileMissing (file : SourcePath)
  | packageNameMissing
  | packageGuidMissing
  | infVersion (value : String)
  | specificationVersion (value name : String)
  | makefileFamily (family : String)
  | baseNameMissing
  | moduleTypeMissing
  | moduleTypeUnsupported (text : String)
  | componentTypeMissing
  | smmCoreVersion
  | includeSection
  | symbolMissing (what name : String)
  | tokenInvalid (fault : TokenFault) (pcd : PcdId) (package : SourcePath)
  | accessDeclared (pcd : PcdId) (used : Access) (module : SourcePath) (declared : Access)
      (package : SourcePath)
  | pcdUndeclared (pcd : PcdId) (module : SourcePath)
  | depexMissing (type : ModuleType)
  | depexModuleMissing
  | depexSymbolMissing (token : String)
  | referenceCycle (file : SourcePath)
  | platformNameMissing
  | platformGuidMissing
  | spaceInOutputFolder
  | vpdToolGuid
  | skuNumberMissing
  | skuNameMissing
  | bindingModuleType (text : String)
  | componentRepeated (file : SourcePath)
  | optionStyle (text : String)
  | libraryMissing (libraryClass : String)
  | libraryModuleType (type : ModuleType) (library : SourcePath)
  | constructorCycle (library : SourcePath)
  | accessMismatch
  | datumRejected (fault : DatumFault)
  | variableGuidMissing (guid : String)
  | toolsMissing
  | pcdSettings
  | offsetToolMissing
  | offsetToolPath (tool : String)
  | offsetToolStart (tool : String) (error : FileError)
  | offsetToolFailed (tool : String)
  | flashDefinitionMissing (platform : SourcePath)
  | offsetFolder (folder : HostPath)
  | offsetFileWrite (file : HostPath) (error : FileError)
  | offsetMapMissing (file : HostPath)
  | offsetMapRead (file : HostPath) (error : FileError)
  | offsetRow
  | offsetRowName (name : String)
  | offsetNotGiven (pcd : PcdId) (sku : String)
  | tokenShared (token : String) (pcd other : PcdId) (package : SourcePath)
  | tokenChanged (token : String) (pcd : PcdId) (package : SourcePath)
  | accessUndeclared (pcd : PcdId) (used declared : Access)
  | contextCycle (file : SourcePath)
  | reported (kind : FailureKind) (message : String)

namespace Cause

def kind : Cause → FailureKind
  | moduleTypeUnknown _ | specificationVersion _ _ | makefileFamily _ | moduleTypeUnsupported _
  | smmCoreVersion | includeSection | spaceInOutputFolder => .formatNotSupported
  | packageNameMissing | packageGuidMissing | baseNameMissing | moduleTypeMissing
  | componentTypeMissing | platformNameMissing | platformGuidMissing | flashDefinitionMissing _
  | offsetToolPath _ => .attributeNotAvailable
  | symbolMissing _ _ | depexMissing _ | depexModuleMissing | depexSymbolMissing _ | libraryMissing _
  | variableGuidMissing _ | toolsMissing => .resourceNotAvailable
  | accessDeclared _ _ _ _ _ | accessMismatch => .optionConflict
  | libraryModuleType _ _ => .optionMissing
  | bindingModuleType _ | optionStyle _ => .optionUnknown
  | pathEmpty | fileMissing _ | offsetToolMissing | offsetToolStart _ _ => .fileNotFound
  | componentRepeated _ => .fileDuplicated
  | offsetFolder _ | offsetFileWrite _ _ => .fileWriteFailure
  | offsetMapMissing _ | offsetMapRead _ _ => .fileReadFailure
  | constructorCycle _ | referenceCycle _ | contextCycle _ => .build
  | pcdSettings | offsetToolFailed _ => .generation
  | reported kind _ => kind
  | _ => .formatInvalid

def message : Cause → String
  | accessUnknown text => s!"Unknown PCD type [{text}]"
  | datumTypeUnknown text => s!"Invalid PCD datum type [{text}]"
  | moduleTypeUnknown text => s!"Unknown module type [{text}]"
  | settingTooLong form setting => s!"Too many fields in {form.name} setting [{setting}]"
  | optionKey key => s!"Build option key [{key}] is not TARGET_TOOLCHAIN_ARCH_COMMANDTYPE_ATTRIBUTE"
  | toolLine number line => s!"Expected KEY = VALUE at line {number}: {line}"
  | toolKey number key =>
    s!"Tool definition key [{key}] at line {number} is not TARGET_TOOLCHAIN_ARCH_TOOL_ATTRIBUTE"
  | pathEmpty => "Empty file path"
  | fileExtension found expected => s!"Invalid file type [{found}], expected [{expected}]"
  | fileMissing file => s!"File [{file.text}] is not found"
  | packageNameMissing => "No PACKAGE_NAME"
  | packageGuidMissing => "No PACKAGE_GUID"
  | infVersion value => s!"Invalid INF_VERSION [{value}]"
  | specificationVersion value name => s!"'{value}' format is not supported for {name}"
  | makefileFamily family => s!"No supported family [{family}]"
  | baseNameMissing => "No BASE_NAME name"
  | moduleTypeMissing => "MODULE_TYPE is not given"
  | moduleTypeUnsupported text =>
    s!"MODULE_TYPE {text} is not supported for EDK II, valid values are:\n " ++
      Text.join " " (ModuleType.all.map ModuleType.name)
  | componentTypeMissing => "COMPONENT_TYPE is not given"
  | smmCoreVersion =>
    "SMM_CORE module type can't be used in the module with PI_SPECIFICATION_VERSION less than " ++
      "0x0001000A"
  | includeSection => "No [include] section allowed"
  | symbolMissing what name =>
    s!"Value of {what} [{name}] is not found under [{what}s] section in"
  | tokenInvalid fault pcd package =>
    s!"{fault.message} of PCD [{pcd.fullName}] in [{package.text}]"
  | accessDeclared pcd used module declared package =>
    s!"PCD [{pcd.fullName}] is used as [{used.name}] in module {module.text}, " ++
      s!"but declared as [{declared.name}] in package {package.text}"
  | pcdUndeclared pcd module =>
    s!"PCD [{pcd.fullName}] in [{module.text}] is not found in dependent packages:"
  | depexMissing type =>
    "No [Depex] section or no valid expression in [Depex] section for " ++ s!"[{type.name}] module"
  | depexModuleMissing => "Module is not found in active platform"
  | depexSymbolMissing token => s!"Value of [{token}] is not found in"
  | referenceCycle file => s!"Dependency expressions lead from [{file.text}] back to it"
  | platformNameMissing => "No PLATFORM_NAME"
  | platformGuidMissing => "No FILE_GUID"
  | spaceInOutputFolder => "No space is allowed in OUTPUT_DIRECTORY"
  | vpdToolGuid => "Invalid GUID format for VPD_TOOL_GUID"
  | skuNumberMissing => "No Sku ID number"
  | skuNameMissing => "No Sku ID name"
  | bindingModuleType text => s!"Unknown module type [{text}]"
  | componentRepeated file => s!"Module [{file.text}] is listed more than once"
  | optionStyle text => s!"Unknown build option style [{text}]"
  | libraryMissing libraryClass => s!"Instance of library class [{libraryClass}] is not found"
  | libraryModuleType type library =>
    s!"Module type [{type.name}] is not supported by library instance [{library.text}]"
  | constructorCycle library => s!"Library [{library.text}] with constructors has a cycle"
  | accessMismatch => "Mismatched PCD type"
  | datumRejected fault => fault.message
  | variableGuidMissing guid => s!"Value of GUID [{guid}] is not found in"
  | toolsMissing => "No tools found in configuration"
  | pcdSettings => "PCD setting error"
  | offsetToolMissing =>
    "Fail to find third-party BPDG tool to process VPD PCDs. BPDG Guid tool need to be defined in " ++
      "tools_def.txt and VPD_TOOL_GUID need to be provided in DSC file."
  | offsetToolPath tool =>
    s!"PATH attribute was not provided for BPDG guid tool {tool} in tools_def.txt"
  | offsetToolStart tool error => s!"Fail to run VPD tool [{tool}]: {error.message}"
  | offsetToolFailed tool => s!"Fail to call VPD tool [{tool}]"
  | flashDefinitionMissing platform =>
    s!"Fail to get FLASH_DEFINITION definition in DSC file {platform.text} which is required when " ++
      "DSC contains VPD PCD."
  | offsetFolder folder => s!"Fail to create FV folder under {folder.text}"
  | offsetFileWrite file error =>
    s!"Fail to write VPD information file {file.text}: {error.message}"
  | offsetMapMissing file => s!"Can not find VPD map file {file.text} to fix up VPD offset."
  | offsetMapRead file error => s!"Can not read VPD map file {file.text}: {error.message}"
  | offsetRow => "Wrong VPD line format"
  | offsetRowName name => s!"Invalid PCD name [{name}]"
  | offsetNotGiven pcd sku => s!"VPD map file gives no offset for PCD [{pcd.fullName}] (SKU {sku})"
  | tokenShared token pcd other package =>
    s!"The TokenValue [{token}] of PCD [{pcd.fullName}] is conflict with: [{other.fullName}] in " ++
      package.text
  | tokenChanged token pcd package =>
    s!"The TokenValue [{token}] of PCD [{pcd.fullName}] in {package.text} defined in two places " ++
      "should be same as well."
  | accessUndeclared pcd used declared =>
    s!"Type [{used.name}] of PCD [{pcd.fullName}] in DSC file doesn't match the type " ++
      s!"[{declared.name}] defined in DEC file."
  | contextCycle file => s!"Library instances lead from [{file.text}] back to it"
  | reported _ message => message

/-- Whether the build asks for itself without end, which no other answer may hide. -/
def isEndless : Cause → Bool
  | referenceCycle _ | contextCycle _ => true
  | _ => false

end Cause

structure Failure where
  cause : Cause
  file? : Option SourcePath := none
  line? : Option Nat := none
  detail? : Option String := none

namespace Failure

def of (cause : Cause) : Failure := { cause }

def kind (failure : Failure) : FailureKind := failure.cause.kind

def isPlaced (failure : Failure) : Bool := failure.kind ≠ .machine

def inFile (failure : Failure) (file : SourcePath) : Failure :=
  if failure.isPlaced then { failure with file? := some file } else failure

def atLine (failure : Failure) (file : SourcePath) (line : Nat) : Failure :=
  if failure.isPlaced then { failure with file? := some file, line? := some line } else failure

def withDetail (failure : Failure) (detail : String) : Failure :=
  if failure.isPlaced then { failure with detail? := some detail } else failure

def text (failure : Failure) : String :=
  let place :=
    match failure.file?, failure.line? with
    | some file, some line => s!" [{file.text}({line})]"
    | some file, none => s!" [{file.text}]"
    | none, _ => ""
  let detail := failure.detail?.elim "" ("\n\t" ++ ·)
  failure.cause.message ++ place ++ detail

end Failure

abbrev Checked (α : Type) : Type := Except Failure α

def Checked.atLine {α : Type} (checked : Checked α) (file : SourcePath) (line : Nat) : Checked α :=
  checked.mapError (·.atLine file line)

def ModuleType.read (text : String) : Checked ModuleType :=
  (ModuleType.ofText? text).elim (.error (.of (.moduleTypeUnknown text))) .ok

def Access.read (text : String) : Checked Access :=
  (Access.ofText? text).elim (.error (.of (.accessUnknown (Text.trim text)))) .ok

def DatumType.read (text : String) : Checked DatumType :=
  (DatumType.ofText? text).elim (.error (.of (.datumTypeUnknown (Text.trim text)))) .ok

def DatumType.readOptional (text : String) : Checked (Option DatumType) :=
  if Text.isBlankText text then .ok none else some <$> DatumType.read text

def SettingForm.fields (form : SettingForm) (setting : String) : Checked (Nat → String) :=
  let fields := Text.valueList '|' setting
  if form.width < fields.length then .error (.of (.settingTooLong form setting))
  else .ok fun i => fields.getD i ""

def SourcePath.validate (file : SourcePath) (extension : String) : Checked Unit :=
  if file.segments = [] then .error (.of .pathEmpty)
  else if file.hasExtension extension then .ok ()
  else .error (Failure.inFile (.of (.fileExtension file.extension extension)) file)

end UefiBuild
