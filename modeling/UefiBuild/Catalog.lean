import UefiBuild.Platform.Basic
import UefiBuild.Shelf
import UefiBuild.Warning

namespace UefiBuild

structure Catalog where
  packages : Table (SourcePath × String) (Shared Package) := ∅
  modules : Table (SourcePath × String) (Shared Module) := ∅
  platforms : Table (SourcePath × String) (Shared Platform) := ∅
  warnings : List Warning := []
  nextSerial : Nat := 0
  deriving Inhabited

namespace Catalog

instance : Numbered Catalog where
  nextSerial catalog := catalog.nextSerial
  advance catalog := { catalog with nextSerial := catalog.nextSerial + 1 }

def packageShelf : Shelf Catalog (SourcePath × String) Package where
  objects := packages
  replace catalog packages := { catalog with packages }

def moduleShelf : Shelf Catalog (SourcePath × String) Module where
  objects := modules
  replace catalog modules := { catalog with modules }

def platformShelf : Shelf Catalog (SourcePath × String) Platform where
  objects := platforms
  replace catalog platforms := { catalog with platforms }

end Catalog

abbrev Resolve (α : Type) : Type := BuildStep Catalog α

abbrev Lookup (α : Type) : Type := SourcePath → String → Resolve (Shared α)

namespace Catalog

def warn (warning : Warning) : Resolve Unit :=
  modify fun catalog => { catalog with warnings := catalog.warnings ++ [warning] }

def findFile (store : RecordStore) (file : SourcePath) (extension : String) : Checked Unit := do
  file.validate extension
  if store.contains file then .ok () else .error (.of (.fileMissing file))

def package (store : RecordStore) : Lookup Package := fun file arch =>
  packageShelf.request (file, arch) do
    .ofChecked (findFile store file ".dec")
    .ofChecked (Package.resolve store file arch)

end Catalog

end UefiBuild
