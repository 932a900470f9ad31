import UefiBuild.Library.Binding

namespace UefiBuild

namespace Platform

/-- Names are taken as they are written, else with any mix of cases. -/
def legacyLibrary? (platform : Platform) (name : String) : Option SourcePath :=
  (platform.bindings.legacy.get? name).or
    ((platform.bindings.legacy.entries.find? fun (key, _) =>
      Text.sameIgnoringAsciiCase key name).map Prod.snd)

/-- A module that links libraries by name links this one too. -/
def compilerStub : String := "CompilerStub"

def legacyNames (module : Module) : List String :=
  if module.libraryNames = [] then [] else module.libraryNames ++ [compilerStub]

structure LegacySearch where
  libraries : List (Shared Module) := []
  frontier : List (List String) := []

namespace LegacySearch

def find (lookup : Lookup Module) (platform : Platform) (module : Module) (search : LegacySearch)
    (name : String) : Resolve LegacySearch := do
  match platform.legacyLibrary? name with
  | none =>
    Catalog.warn (.libraryNotFound name module.file platform.arch)
    return search
  | some file =>
    let library ← lookup file platform.arch
    if search.libraries.any (·.serial = library.serial) then return search
    return {
      libraries := search.libraries ++ [library]
      frontier := library.value.libraryNames :: search.frontier }

def run (lookup : Lookup Module) (platform : Platform) (module : Module) :
    Nat → LegacySearch → Resolve (List (Shared Module))
  | 0, _ => throw (.of (.contextCycle module.file))
  | room + 1, search =>
    match search.frontier with
    | [] => return search.libraries
    | names :: others => do
      let search ← names.foldlM (find lookup platform module) { search with frontier := others }
      run lookup platform module room search

end LegacySearch

/-- The libraries that a module of the older format names, and those that they name in turn. Each is
found in a file of its own, which bounds the search. -/
def linkLegacy (store : RecordStore) (lookup : Lookup Module) (platform : Platform)
    (module : Shared Module) : Resolve (List (Shared Module)) :=
  LegacySearch.run lookup platform module.value (store.fileCount + 2)
    { frontier := [legacyNames module.value] }

def linked (store : RecordStore) (lookup : Lookup Module) (platform : Platform)
    (module : Shared Module) : Resolve (List (Shared Module)) :=
  if module.value.isLibrary then return []
  else if module.value.isLegacy then platform.linkLegacy store lookup module
  else platform.linkLibraries store lookup module

end Platform

end UefiBuild
