import UefiBuild.Context.Module

namespace UefiBuild

namespace AsBuilt

def infVersion : String := "0x00010016"

def extension (output : String) : String :=
  (Text.cutAtLast? '.' output).elim "" fun (_, ext) => Text.lowerAscii ("." ++ ext)

def outputItem (module : Module) (output : String) : String :=
  let ext := extension output
  if module.type = .base ∨ module.type = .userDefined then
    if ext = ".aml" then s!"ASL|{output}"
    else if ext = ".acpi" then s!"ACPI|{output}"
    else s!"BIN|{output}"
  else if ext = ".efi" then s!"PE32|{module.baseName}.efi"
  else s!"BIN|{output}"

def depexKind? : ModuleType → Option String
  | .peim => some "PEI_DEPEX"
  | .dxeDriver | .dxeRuntimeDriver | .dxeSalDriver | .uefiDriver => some "DXE_DEPEX"
  | .dxeSmmDriver => some "SMM_DEPEX"
  | _ => none

def depexItem? (module : Module) : Option String :=
  (depexKind? module.type).map fun kind => s!"{kind}|{module.baseName}.depex"

def block (start : String) (items : List String) : String := Text.join "" (items.map (start ++ ·))

def define (module : Module) (name shown : String) : String :=
  ((module.specifications.get? name).map fun version => s!"\n  {shown} = {version}").getD ""

end AsBuilt

namespace ModuleContext

open AsBuilt

def exchangedPcds (context : ModuleContext) : List Pcd :=
  context.pcds.filter fun pcd => pcd.access?.any Access.isDynamicEx

def declares (pcds : List Pcd) (package : Package) : Bool :=
  pcds.any fun pcd => (package.pcd? pcd.id .dynamicEx).isSome || (package.pcd? pcd.id .dynamic).isSome

def flagLines (context : ModuleContext) : List String :=
  context.options.entries.filterMap fun (tool, attributes) =>
    (attributes.get? "FLAGS").map fun value =>
      s!"{context.toolFamily}:{context.target}_{context.toolchain}_{context.arch}_{tool}_FLAGS = " ++
        Text.trim value

/-- The descriptor under which a built module can be shipped without its sources. -/
def asBuilt? (context : ModuleContext) (outputs : List String) (depexMade : Bool) : Option String :=
  let module := context.data
  if module.isLibrary || module.isLegacy || context.sources.isEmpty || !context.binaries.isEmpty then none
  else
    let pcds := context.exchangedPcds
    let packages := context.packages.filter fun package => declares pcds package.value
    let type := if depexMade && module.type = .uefiDriver then .dxeDriver else module.type
    let binaries := outputs.map (outputItem module) ++
      if depexMade then (depexItem? module).toList else []
    some (
      s!"## @file\n# {module.baseName}\n#\n# DO NOT EDIT\n# FILE auto-generated Binary INF\n#\n##\n\n" ++
      s!"[Defines]\n  INF_VERSION                = {infVersion}\n" ++
      s!"  BASE_NAME                  = {module.baseName}\n" ++
      s!"  FILE_GUID                  = {module.guid}\n" ++
      s!"  MODULE_TYPE                = {type.name}\n" ++
      s!"  VERSION_STRING             = {module.version}" ++
      define module "UEFI_SPECIFICATION_VERSION" "UEFI_SPECIFICATION_VERSION" ++
      define module "PI_SPECIFICATION_VERSION" "PI_SPECIFICATION_VERSION  " ++
      "\n\n[Packages]" ++ block "\n  " (packages.map fun package => package.value.file.text) ++
      s!"\n\n[Binaries.{context.arch}]" ++ block "\n  " binaries ++
      "\n\n[PcdEx]" ++ block "\n  " (pcds.map Pcd.fullName) ++
      "\n\n## @AsBuilt" ++ block "\n##   " context.flagLines ++ "\n")

end ModuleContext

end UefiBuild
