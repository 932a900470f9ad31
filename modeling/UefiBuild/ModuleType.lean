import UefiBuild.Text.Case
import UefiBuild.Text.Split

namespace UefiBuild

inductive ModuleType
  | base
  | sec
  | peiCore
  | peim
  | dxeCore
  | dxeDriver
  | dxeRuntimeDriver
  | dxeSalDriver
  | dxeSmmDriver
  | uefiDriver
  | uefiApplication
  | userDefined
  | smmCore
  deriving DecidableEq, Inhabited

namespace ModuleType

def all : List ModuleType :=
  [base, sec, peiCore, peim, dxeCore, dxeDriver, dxeRuntimeDriver, dxeSalDriver, dxeSmmDriver,
    uefiDriver, uefiApplication, userDefined, smmCore]

theorem mem_all (type : ModuleType) : type ∈ all := by cases type <;> decide

def name : ModuleType → String
  | base => "BASE"
  | sec => "SEC"
  | peiCore => "PEI_CORE"
  | peim => "PEIM"
  | dxeCore => "DXE_CORE"
  | dxeDriver => "DXE_DRIVER"
  | dxeRuntimeDriver => "DXE_RUNTIME_DRIVER"
  | dxeSalDriver => "DXE_SAL_DRIVER"
  | dxeSmmDriver => "DXE_SMM_DRIVER"
  | uefiDriver => "UEFI_DRIVER"
  | uefiApplication => "UEFI_APPLICATION"
  | userDefined => "USER_DEFINED"
  | smmCore => "SMM_CORE"

def ofText? (s : String) : Option ModuleType :=
  all.find? fun type => Text.sameIgnoringAsciiCase type.name (Text.trim s)

def ofComponentType? (s : String) : Option ModuleType :=
  match Text.upper s with
  | "LIBRARY" | "LOGO" => some base
  | "SECURITY_CORE" => some sec
  | "PEI_CORE" => some peiCore
  | "COMBINED_PEIM_DRIVER" | "PIC_PEIM" | "RELOCATABLE_PEIM" | "PE32_PEIM" => some peim
  | "BS_DRIVER" => some dxeDriver
  | "RT_DRIVER" => some dxeRuntimeDriver
  | "SAL_RT_DRIVER" => some dxeSalDriver
  | "DXE_SMM_DRIVER" => some dxeSmmDriver
  | "APPLICATION" => some uefiApplication
  | _ => none

def isPei : ModuleType → Bool
  | peim | peiCore => true
  | _ => false

def requiresDepex : ModuleType → Bool
  | dxeDriver | peim | dxeSmmDriver | dxeSalDriver | dxeRuntimeDriver => true
  | _ => false

end ModuleType

end UefiBuild
