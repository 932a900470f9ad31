import UefiBuild.Catalog
import UefiBuild.Library.Order
import UefiBuild.Module.Header

namespace UefiBuild

def isForcedClass (libraryClass : String) : Bool := Text.startsWith "NULL" libraryClass

abbrev ClassUses := Table String (Option SourcePath)

namespace Platform

/-- What a module consumes: its own classes and the instances forced on it, by the platform for its
type, which user-defined modules are spared, and by its own place in the platform. -/
def consumedClasses (platform : Platform) (module : Module) : ClassUses :=
  let forced := if module.type = .userDefined then [] else
    (platform.bindings.classes.filter isForcedClass).filterMap fun libraryClass =>
      (platform.libraryInstance? libraryClass module.type).map fun file => (libraryClass, some file)
  let own := (platform.components.get? module.file).elim [] fun component =>
    (component.libraryClasses.entries.filter fun (libraryClass, _) => isForcedClass libraryClass).map
      fun (libraryClass, file) => (libraryClass, some file)
  module.libraryClasses.insertAll (forced ++ own)

/-- The instance of a class: the component's own choice, else the platform's, else the suggestion. -/
def chooseInstance? (platform : Platform) (module : Module) (libraryClass : String)
    (suggested : Option SourcePath) : Option SourcePath :=
  let own := (platform.components.get? module.file).bind (·.libraryClasses.get? libraryClass)
  own.or ((platform.libraryInstance? libraryClass module.type).or suggested)

end Platform

structure LinkSearch where
  graph : LinkGraph SourcePath := ∅
  libraries : Table SourcePath (Shared Module) := ∅
  bound : Table String (Shared Module) := ∅
  frontier : List (Shared Module × ClassUses) := []

namespace LinkSearch

def addLibrary (search : LinkSearch) (library : Shared Module) : LinkSearch :=
  { search with
    graph := search.graph.addNode library.value.file (!library.value.constructors.isEmpty)
    libraries := search.libraries.update library.value.file (·.getD library) }

/-- The module itself is no library and stands for itself in no use. -/
def addUse (search : LinkSearch) (module consumer library : Shared Module) : LinkSearch :=
  let search := search.addLibrary library
  if consumer.serial = module.serial then search
  else
    let both := search.addLibrary consumer
    { both with
      graph := both.graph.addUse library.value.file consumer.value.file
        (LinkGraph.mem_addNode.2 (.inl (LinkGraph.mem_addNode.2 (.inr rfl))))
        (LinkGraph.mem_addNode.2 (.inr rfl)) }

def supports (library : Module) (type : ModuleType) : Bool :=
  library.provided.head?.any fun first => type = .userDefined || first.supports type

def bind (lookup : Lookup Module) (platform : Platform) (module consumer : Shared Module)
    (search : LinkSearch) (libraryClass : String) (suggested : Option SourcePath) :
    Resolve (LinkSearch × Shared Module) := do
  let file ←
    match platform.chooseInstance? module.value libraryClass suggested with
    | some file => pure file
    | none =>
      throw ((Failure.inFile (.of (.libraryMissing libraryClass)) platform.file).withDetail
        (s!"in [{consumer.value.file.text}] [{platform.arch}]\n\tconsumed by module " ++
          s!"[{module.value.file.text}]"))
  let library ← lookup file platform.arch
  if !isForcedClass libraryClass && !supports library.value module.value.type then
    throw ((Failure.inFile (.of (.libraryModuleType module.value.type file)) platform.file).withDetail
      s!"consumed by [{module.value.file.text}]")
  return ({ search with
    bound := search.bound.insert libraryClass library
    frontier := (library, library.value.libraryClasses) :: search.frontier }, library)

def consume (lookup : Lookup Module) (platform : Platform) (module consumer : Shared Module)
    (search : LinkSearch) (use : String × Option SourcePath) : Resolve LinkSearch := do
  let (search, library) ←
    match search.bound.get? use.1 with
    | some library => pure (search, library)
    | none => search.bind lookup platform module consumer use.1 use.2
  return search.addUse module consumer library

def run (lookup : Lookup Module) (platform : Platform) (module : Shared Module) :
    Nat → LinkSearch → Resolve LinkSearch
  | 0, _ => throw (.of (.contextCycle module.value.file))
  | room + 1, search =>
    match search.frontier with
    | [] => return search
    | (consumer, classes) :: others => do
      let search ← classes.entries.foldlM (consume lookup platform module consumer)
        { search with frontier := others }
      run lookup platform module room search

def cycleFailure (platform : Platform) (cycle : LinkGraph.Cycle SourcePath) : Failure :=
  let consumers := Text.join "\n\tconsumed by " (cycle.consumers.map SourcePath.text)
  (Failure.inFile (.of (.constructorCycle cycle.library)) platform.file).withDetail
    ("\tconsumed by " ++ consumers)

def ordered (search : LinkSearch) (platform : Platform) : Checked (List (Shared Module)) :=
  match search.graph.constructorOrder with
  | .error cycle => .error (cycleFailure platform cycle)
  | .ok files => .ok (files.filterMap search.libraries.get?)

end LinkSearch

/-- The library instances that a module links, those first whose constructors run first. Each class
is bound once and named in some row, which bounds the search. -/
def Platform.linkLibraries (store : RecordStore) (lookup : Lookup Module) (platform : Platform)
    (module : Shared Module) : Resolve (List (Shared Module)) := do
  let classes := platform.consumedClasses module.value
  let search ← LinkSearch.run lookup platform module (classes.size + store.rowCount + 2)
    { frontier := [(module, classes)] }
  .ofChecked (search.ordered platform)

end UefiBuild
