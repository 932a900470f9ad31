import UefiBuild.Proofs.Catalog.Standing
import UefiBuild.Proofs.Library.Legacy
import UefiBuild.Proofs.Onward
import UefiBuild.Proofs.Workspace.Contexts
import UefiBuild.Workspace.Plan

namespace UefiBuild.Workspace

open BuildStep (Ends Keeps Leads Onward)
open Catalog (FilledFrom Repeats Stands)
open List (Forall₂)

section Kept

variable (workspace : Workspace) (arch : String)

def HasPlatform (platform : Shared PlatformContext) (state : BuildState) : Prop :=
  state.contexts.platforms.get? (workspace.key .platform arch workspace.config.platform) = some platform

def HasModule (file : SourcePath) (context : Shared ModuleContext) (state : BuildState) : Prop :=
  state.contexts.modules.get? (workspace.key .module arch file) = some context

def parts (platform : PlatformContext) (file : SourcePath) :
    Resolve (Shared Module × List (Shared Module)) := do
  let module ← Catalog.module workspace.store file platform.arch
  let libraries ← platform.data.linked workspace.store (Catalog.module workspace.store) module
  return (module, libraries)

structure Assembled (file : SourcePath) (context : ModuleContext) (state : BuildState) : Prop where
  parts : ∃ platform, workspace.HasPlatform arch platform state ∧
    Stands (workspace.parts platform.value file) state.catalog
      (context.module, context.libraries.map (·.library))
  libraries : ∀ linked ∈ context.libraries, ∃ own,
    workspace.HasModule arch linked.library.value.file own state ∧ own.serial = linked.context ∧
      own.value.module = linked.own

structure PackagesOf (platform : PlatformContext) (files : List SourcePath) (catalog : Catalog) : Prop where
  nodup : files.Nodup
  found : ∀ component ∈ platform.data.components.keys,
    ∃ part, Stands (workspace.parts platform component) catalog part
  mem_iff : ∀ file, file ∈ files ↔ ∃ component ∈ platform.data.components.keys, ∃ part,
    Stands (workspace.parts platform component) catalog part ∧
      ∃ module ∈ part.1 :: part.2, ∃ package ∈ module.value.packages, package.value.file = file

def FoundFor (packages : List (Shared Package)) (state : BuildState) : Prop :=
  ∃ platform, workspace.HasPlatform arch platform state ∧
    workspace.PackagesOf platform.value (packages.map (·.value.file)) state.catalog

end Kept

/-- The contexts that a build keeps are what would be made of the descriptors that it knows. -/
structure Consistent (workspace : Workspace) (state : BuildState) : Prop where
  filled : FilledFrom workspace.store state.catalog
  sound : Catalog.Sound workspace.store workspace.config.platform workspace.config.sku? state.catalog
  platforms : ∀ arch platform, workspace.HasPlatform arch platform state →
    platform.value.arch = arch ∧ platform.value.data.arch = arch
  modules : ∀ arch file context, workspace.HasModule arch file context state →
    workspace.Assembled arch file context.value state
  packages : ∀ arch file packages,
    state.contexts.packages.get? (workspace.key .packages arch file) = some packages →
      workspace.FoundFor arch packages.value state

structure Outlasts (workspace : Workspace) (earlier state : BuildState) : Prop where
  catalog : ∀ key module, earlier.catalog.modules.get? key = some module →
    state.catalog.modules.get? key = some module
  platforms : ∀ arch platform, workspace.HasPlatform arch platform earlier →
    workspace.HasPlatform arch platform state
  modules : ∀ arch file context, workspace.HasModule arch file context earlier →
    workspace.HasModule arch file context state

structure Follows (workspace : Workspace) (earlier state : BuildState) : Prop where
  consistent : workspace.Consistent state
  outlasts : workspace.Outlasts earlier state

variable {workspace : Workspace} {arch : String} {file : SourcePath} {earlier state after : BuildState}
  {catalog later : Catalog}

theorem consistent_fresh (workspace : Workspace) (disk : Disk) : workspace.Consistent { disk } where
  filled := .empty
  sound := Catalog.sound_empty
  platforms _ _ found := by simp [HasPlatform] at found
  modules _ _ _ found := by simp [HasModule] at found
  packages _ _ _ found := by simp at found

theorem Consistent.follows (consistent : workspace.Consistent state) : workspace.Follows state state :=
  ⟨consistent, fun _ _ => id, fun _ _ => id, fun _ _ _ => id⟩

theorem onward_follows (workspace : Workspace) : Onward workspace.Follows where
  self follows := follows.consistent.follows
  trans first second := ⟨second.consistent,
    fun key module found => second.outlasts.catalog key module (first.outlasts.catalog key module found),
    fun arch platform has =>
      second.outlasts.platforms arch platform (first.outlasts.platforms arch platform has),
    fun arch file context has =>
      second.outlasts.modules arch file context (first.outlasts.modules arch file context has)⟩

theorem HasPlatform.unique {platform other : Shared PlatformContext}
    (has : workspace.HasPlatform arch platform state) (hasOther : workspace.HasPlatform arch other state) :
    platform = other := Option.some.inj (has.symm.trans hasOther)

theorem HasModule.unique {context other : Shared ModuleContext}
    (has : workspace.HasModule arch file context state)
    (hasOther : workspace.HasModule arch file other state) :
    context = other := Option.some.inj (has.symm.trans hasOther)

theorem Assembled.mono {context : ModuleContext} (assembled : workspace.Assembled arch file context state)
    (outlasts : workspace.Outlasts state after) : workspace.Assembled arch file context after := by
  obtain ⟨platform, has, stands⟩ := assembled.parts
  refine ⟨⟨platform, outlasts.platforms arch platform has, stands.mono outlasts.catalog⟩, ?_⟩
  intro linked member
  obtain ⟨own, has, same⟩ := assembled.libraries linked member
  exact ⟨own, outlasts.modules arch _ own has, same⟩

theorem PackagesOf.mono {platform : PlatformContext} {files : List SourcePath}
    (packages : workspace.PackagesOf platform files catalog)
    (kept : ∀ key module, catalog.modules.get? key = some module → later.modules.get? key = some module) :
    workspace.PackagesOf platform files later where
  nodup := packages.nodup
  found component listed :=
    let ⟨part, stands⟩ := packages.found component listed
    ⟨part, stands.mono kept⟩
  mem_iff file := by
    rw [packages.mem_iff]
    constructor
    · rintro ⟨component, listed, part, stands, depends⟩
      exact ⟨component, listed, part, stands.mono kept, depends⟩
    · rintro ⟨component, listed, part, stands, depends⟩
      obtain ⟨before, standsBefore⟩ := packages.found component listed
      obtain rfl := (standsBefore.mono kept).unique stands
      exact ⟨component, listed, before, standsBefore, depends⟩

theorem FoundFor.mono {packages : List (Shared Package)} (found : workspace.FoundFor arch packages state)
    (outlasts : workspace.Outlasts state after) : workspace.FoundFor arch packages after := by
  obtain ⟨platform, has, packagesOf⟩ := found
  exact ⟨platform, outlasts.platforms arch platform has, packagesOf.mono outlasts.catalog⟩

structure CatalogFollows (workspace : Workspace) (earlier catalog : Catalog) : Prop where
  filled : FilledFrom workspace.store catalog
  sound : Catalog.Sound workspace.store workspace.config.platform workspace.config.sku? catalog
  kept : ∀ key module, earlier.modules.get? key = some module → catalog.modules.get? key = some module

theorem CatalogFollows.follows (resolved : workspace.CatalogFollows state.catalog later)
    (consistent : workspace.Consistent state) : workspace.Follows state { state with catalog := later } := by
  have outlasts : workspace.Outlasts state { state with catalog := later } :=
    ⟨resolved.kept, fun _ _ => id, fun _ _ _ => id⟩
  refine ⟨⟨resolved.filled, resolved.sound, consistent.platforms, ?_, ?_⟩, outlasts⟩
  · exact fun arch file context has => (consistent.modules arch file context has).mono outlasts
  · exact fun arch file packages found => (consistent.packages arch file packages found).mono outlasts

theorem parts_kept {platform : PlatformContext} {part : Shared Module × List (Shared Module)}
    (filled : FilledFrom workspace.store catalog)
    (stands : Stands (workspace.parts platform file) catalog part) :
    catalog.modules.get? (file, platform.arch) = some part.1 ∧ ∀ library ∈ part.2,
      catalog.modules.get? (library.value.file, platform.data.arch) = some library := by
  obtain ⟨last, ran, same⟩ := stands catalog fun _ _ => id
  have ends : Ends (workspace.parts platform file) catalog fun part after =>
      after.modules.get? (file, platform.arch) = some part.1 ∧ ∀ library ∈ part.2,
        after.modules.get? (library.value.file, platform.data.arch) = some library := by
    refine (filled.ends_module file platform.arch).bind fun module between ⟨filled, _, found⟩ => ?_
    have linked := (Platform.ends_linked filled platform.data module).and
      (Platform.repeats_linked platform.data module between filled)
    exact linked.bind fun libraries after ⟨linked, _, follows, _⟩ =>
      .pure ⟨follows.kept _ _ found, linked.kept⟩
  exact same ▸ ends part last ran

theorem Assembled.own_eq {context : ModuleContext} {linked : LinkedLibrary}
    (assembled : workspace.Assembled arch file context state) (consistent : workspace.Consistent state)
    (member : linked ∈ context.libraries) : linked.own = linked.library := by
  obtain ⟨own, has, -, same⟩ := assembled.libraries linked member
  obtain ⟨platform, hasPlatform, stands⟩ := assembled.parts
  obtain ⟨other, hasOther, ownStands⟩ := (consistent.modules arch _ own has).parts
  obtain rfl := hasPlatform.unique hasOther
  obtain ⟨archSame, dataSame⟩ := consistent.platforms arch platform hasPlatform
  have here := (parts_kept consistent.filled stands).2 linked.library (List.mem_map_of_mem member)
  have there := (parts_kept consistent.filled ownStands).1
  rw [archSame] at there
  rw [dataSame, there] at here
  exact same.symm.trans (Option.some.inj here)

end UefiBuild.Workspace
