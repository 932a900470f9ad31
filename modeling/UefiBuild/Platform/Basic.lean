import UefiBuild.Module.Basic

namespace UefiBuild

inductive ModuleStyle
  | edk
  | edk2
  deriving DecidableEq

def ModuleStyle.read (text : String) : Checked ModuleStyle :=
  match text with
  | "EDK" => .ok edk
  | "EDKII" | "" | "COMMON" => .ok edk2
  | other => .error (.of (.optionStyle other))

def Module.style (module : Module) : ModuleStyle := if module.isLegacy then .edk else .edk2

structure Component where
  file : SourcePath
  id : Nat
  sourceOverride? : Option SourcePath := none
  libraryClasses : Table String SourcePath := ∅
  pcds : Table PcdId Pcd := ∅
  options : BuildOptions := ∅

structure PlatformHeader where
  name : String := ""
  guid : String := ""
  version : String := ""
  specification : String := ""
  outputFolder : String := ""
  arches : List String := []
  targets : List String := ["DEBUG", "RELEASE"]
  skuChoice? : Option String := none
  flashDefinition? : Option SourcePath := none
  vpdToolGuid? : Option String := none

structure LibraryBindings where
  /-- By architecture, module type and library class. -/
  instances : WildcardTable SourcePath := {}
  classes : List String := []
  files : List SourcePath := []
  legacy : Table String SourcePath := ∅

structure Platform extends PlatformHeader where
  file : SourcePath
  arch : String
  skuName : String
  skuIds : Table String String
  components : Table SourcePath Component := ∅
  bindings : LibraryBindings := {}
  pcds : Table PcdId Pcd := ∅
  options : Table (OptionId × ModuleStyle) String := ∅

namespace Platform

def libraryInstance? (platform : Platform) (libraryClass : String) (type : ModuleType) :
    Option SourcePath :=
  platform.bindings.instances.resolve? [platform.arch, type.name, libraryClass]

def buildOptions (platform : Platform) (style? : Option ModuleStyle) : BuildOptions :=
  .ofList ((platform.options.entries.filter fun ((_, style), _) => style?.all (· = style)).map
    fun ((id, _), value) => (id, value))

/-- Gives an item the value of the flash layout. A new item stays without access, so that the
module decides on it. -/
def addPcd (platform : Platform) (id : PcdId) (value : String) : Platform :=
  { platform with pcds := platform.pcds.update id fun old => { old.getD { id } with value } }

end Platform

end UefiBuild
