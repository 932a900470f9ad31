import UefiBuild.Module.Resolve
import UefiBuild.Platform.Resolve

namespace UefiBuild.Catalog

def moduleWithin (store : RecordStore) : Nat → Lookup Module
  | 0 => fun file _ => throw (.of (.referenceCycle file))
  | depth + 1 => fun file arch =>
    moduleShelf.request (file, arch) do
      .ofChecked (findFile store file ".inf")
      Module.resolve store (moduleWithin store depth) file arch

/-- No chain of modules is longer than there are files, unless it comes back to one of them. -/
def module (store : RecordStore) : Lookup Module := moduleWithin store (store.fileCount + 1)

/-- Platforms are kept by descriptor, and by architecture and stock keeping unit in one text. -/
def platformKey (file : SourcePath) (arch : String) (sku? : Option String) : SourcePath × String :=
  (file, arch ++ ":" ++ sku?.getD "")

def platform (store : RecordStore) (file : SourcePath) (arch : String) (sku? : Option String) :
    Resolve (Shared Platform) :=
  platformShelf.request (platformKey file arch sku?) do
    .ofChecked (findFile store file ".dsc")
    Platform.resolve store (module store) file arch sku?

end UefiBuild.Catalog
