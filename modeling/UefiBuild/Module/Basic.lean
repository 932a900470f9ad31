import UefiBuild.Options.Key
import UefiBuild.Package

namespace UefiBuild

/-- A resolved descriptor that several users hold in common. Equal serials mean the same one. -/
structure Shared (α : Type) where
  serial : Nat
  value : α

structure LibraryClass where
  name : String
  supported : List ModuleType
  deriving DecidableEq

structure SourceFile where
  file : SourcePath
  family : String
  tag : String
  toolCode : String
  deriving DecidableEq

structure BinaryFile where
  type : String
  file : SourcePath
  target : String
  deriving DecidableEq

structure DepexToken where
  written : String
  value : String
  deriving DecidableEq

structure ModuleHeader where
  baseName : String := ""
  guid : String := "00000000-0000-0000-0000-000000000000"
  infVersion : Nat := 0x00010000
  componentType : String := ""
  version : String := "0.0"
  pcdIsDriver : String := ""
  shadow : Bool := false
  specifications : Table String String := ∅
  provided : List LibraryClass := []
  entryPoints : List String := []
  unloadImages : List String := []
  constructors : List String := []
  destructors : List String := []
  makefiles : Table String SourcePath := ∅
  dxsFile? : Option SourcePath := none
  defines : Table String String := ∅

structure Module extends ModuleHeader where
  file : SourcePath
  arch : String
  type : ModuleType
  buildType : String
  sources : List SourceFile := []
  binaries : List BinaryFile := []
  packages : List (Shared Package) := []
  libraryClasses : Table String (Option SourcePath) := ∅
  libraryNames : List String := []
  protocols : Table String String := ∅
  ppis : Table String String := ∅
  guids : Table String String := ∅
  includes : List SourcePath := []
  pcds : Table PcdId Pcd := ∅
  options : BuildOptions := ∅
  depex : WildcardTable (List DepexToken) := {}

def currentInfVersion : Nat := 0x00010005

def ModuleHeader.isLegacy (header : ModuleHeader) : Bool := header.infVersion < currentInfVersion

namespace Module

def isLibrary (module : Module) : Bool := !module.provided.isEmpty

def depexText (tokens : List DepexToken) : String :=
  Text.join "" (tokens.map fun token => token.written ++ " ")

def depexValues (tokens : List DepexToken) : List String := tokens.map DepexToken.value

end Module

end UefiBuild
