import UefiBuild.Catalog
import UefiBuild.Context.Module

namespace UefiBuild

inductive ContextKind
  | platform
  | module
  | packages
  deriving DecidableEq

/-- Contexts are told apart by what is built and for what. -/
structure ContextKey where
  kind : ContextKind
  target : String
  toolchain : String
  arch : String
  file : SourcePath
  deriving DecidableEq

structure ContextCache where
  platforms : Table ContextKey (Shared PlatformContext) := ∅
  modules : Table ContextKey (Shared ModuleContext) := ∅
  packages : Table ContextKey (Shared (List (Shared Package))) := ∅
  deriving Inhabited

namespace ContextCache

def size (cache : ContextCache) : Nat := cache.platforms.size + cache.modules.size

def isEmpty (cache : ContextCache) : Bool := cache.size = 0

end ContextCache

structure BuildState where
  catalog : Catalog := {}
  contexts : ContextCache := {}
  disk : Disk := {}
  toolCalls : List (String × HostPath) := []
  deriving Inhabited

namespace BuildState

instance : Numbered BuildState where
  nextSerial state := state.catalog.nextSerial
  advance state := { state with catalog := Numbered.advance state.catalog }

def platformShelf : Shelf BuildState ContextKey PlatformContext where
  objects state := state.contexts.platforms
  replace state platforms := { state with contexts := { state.contexts with platforms } }

def moduleShelf : Shelf BuildState ContextKey ModuleContext where
  objects state := state.contexts.modules
  replace state modules := { state with contexts := { state.contexts with modules } }

def packageShelf : Shelf BuildState ContextKey (List (Shared Package)) where
  objects state := state.contexts.packages
  replace state packages := { state with contexts := { state.contexts with packages } }

end BuildState

abbrev Build (α : Type) : Type := BuildStep BuildState α

namespace Build

def resolving {α : Type} (step : Resolve α) : Build α := ExceptT.mk fun state =>
  let (result, catalog) := step.run.run state.catalog
  (result, { state with catalog })

def warn (warning : Warning) : Build Unit := resolving (Catalog.warn warning)

def share {α : Type} (value : α) : Build (Shared α) :=
  modifyGet fun state =>
    ({ serial := Numbered.nextSerial state, value }, Numbered.advance state)

end Build

end UefiBuild
