import UefiBuild.Proofs.Workspace.Consistent

namespace UefiBuild.Workspace

open BuildStep (Ends Keeps Leads)
open Catalog (Repeats Stands)
open List (Forall₂)

section Catalog

variable {workspace : Workspace} {earlier : Catalog}

theorem catalogFollows_warn (warning : Warning) :
    Keeps (workspace.CatalogFollows earlier) (Catalog.warn warning) fun _ => True :=
  .modify fun _ follows =>
    ⟨follows.filled.afterWarning warning, ⟨follows.sound.modules, follows.sound.platforms⟩, follows.kept⟩

theorem catalogFollows_module (file : SourcePath) (arch : String) :
    Keeps (workspace.CatalogFollows earlier) (Catalog.module workspace.store file arch) fun _ => True := by
  intro catalog follows
  have kept := (Catalog.follows_module file arch catalog ⟨follows.filled.read, follows.kept⟩).1.kept
  have sound := (Catalog.keeps_module file arch catalog follows.sound).1
  exact ⟨⟨follows.filled.afterModule file arch, sound, kept⟩, fun _ _ => trivial⟩

theorem catalogFollows_linked (platform : Platform) (module : Shared Module) :
    Keeps (workspace.CatalogFollows earlier)
      (platform.linked workspace.store (Catalog.module workspace.store) module) fun _ => True :=
  (Platform.keeps_linked catalogFollows_module catalogFollows_warn workspace.store platform trivial).mono
    fun _ _ => trivial

theorem catalogFollows_platform (arch : String) :
    Keeps (workspace.CatalogFollows earlier)
      (Catalog.platform workspace.store workspace.config.platform arch workspace.config.sku?)
      fun _ => True := by
  intro catalog follows
  have kept := (Catalog.follows_platform workspace.config.platform arch workspace.config.sku? catalog
    ⟨follows.filled.read, follows.kept⟩).1.kept
  have sound := (Catalog.keeps_platform arch catalog follows.sound).1
  exact ⟨⟨follows.filled.afterPlatform _ arch _, sound, kept⟩, fun _ _ => trivial⟩

end Catalog

variable {workspace : Workspace} {arch : String} {platform : Shared PlatformContext} {file : SourcePath}
  {state : BuildState}

theorem leads_resolving {α : Type} {step : Resolve α} {post : α → Catalog → Prop}
    (keeps : ∀ earlier, Keeps (workspace.CatalogFollows earlier) step fun _ => True)
    (ends : Ends step state.catalog post) (consistent : workspace.Consistent state) :
    Leads workspace.Follows (Build.resolving step) state fun a after => post a after.catalog := by
  constructor
  · have here : workspace.CatalogFollows state.catalog state.catalog :=
      ⟨consistent.filled, consistent.sound, fun _ _ => id⟩
    exact (keeps state.catalog state.catalog here).1.follows consistent
  · intro a after ran
    obtain ⟨ok, rfl⟩ := Prod.mk.inj ran
    exact ends a _ (Prod.ext ok rfl)

theorem leads_warn (warning : Warning) (consistent : workspace.Consistent state) :
    Leads workspace.Follows (Build.warn warning) state fun _ _ => True :=
  leads_resolving (fun _ => catalogFollows_warn warning) .any consistent

theorem leads_module (file : SourcePath) (arch : String) (consistent : workspace.Consistent state) :
    Leads workspace.Follows (workspace.module file arch) state fun module after =>
      Stands (Catalog.module workspace.store file arch) after.catalog module :=
  leads_resolving (fun _ => catalogFollows_module file arch)
    ((Repeats.module file arch _ consistent.filled).mono fun _ _ ends => ends.2.2) consistent

theorem leads_linked (platform : Platform) (module : Shared Module)
    (consistent : workspace.Consistent state) :
    Leads workspace.Follows (workspace.linked platform module) state fun libraries after =>
      Stands (platform.linked workspace.store (Catalog.module workspace.store) module) after.catalog
        libraries :=
  leads_resolving (fun _ => catalogFollows_linked platform module)
    ((Platform.repeats_linked platform module _ consistent.filled).mono fun _ _ ends => ends.2.2) consistent

/-- A state is consistent still when all that is new in it has been made as it should be. -/
theorem Consistent.follows_later {later : BuildState} (consistent : workspace.Consistent state)
    (outlasts : workspace.Outlasts state later) (numbered : later.catalog = Numbered.advance state.catalog)
    (platforms : ∀ arch platform, workspace.HasPlatform arch platform later →
      workspace.HasPlatform arch platform state ∨
        platform.value.arch = arch ∧ platform.value.data.arch = arch)
    (modules : ∀ arch file context, workspace.HasModule arch file context later →
      workspace.HasModule arch file context state ∨ workspace.Assembled arch file context.value state)
    (packages : ∀ arch file packages,
      later.contexts.packages.get? (workspace.key .packages arch file) = some packages →
        state.contexts.packages.get? (workspace.key .packages arch file) = some packages ∨
          workspace.FoundFor arch packages.value state) :
    workspace.Follows state later where
  consistent := {
    filled := numbered ▸ consistent.filled.afterNumber
    sound := numbered ▸ ⟨consistent.sound.modules, consistent.sound.platforms⟩
    platforms := fun arch platform has =>
      (platforms arch platform has).elim (consistent.platforms arch platform) id
    modules := fun arch file context has =>
      ((modules arch file context has).elim (consistent.modules arch file context) id).mono outlasts
    packages := fun arch file found has =>
      ((packages arch file found has).elim (consistent.packages arch file found) id).mono outlasts }
  outlasts := outlasts

theorem follows_advance (consistent : workspace.Consistent state) :
    workspace.Follows state (Numbered.advance state) :=
  consistent.follows_later ⟨fun _ _ => id, fun _ _ => id, fun _ _ _ => id⟩ rfl (fun _ _ => .inl)
    (fun _ _ _ => .inl) fun _ _ _ => .inl

theorem leads_share {α : Type} {value : α} {post : Shared α → Prop}
    (holds : ∀ serial, post { serial, value }) (consistent : workspace.Consistent state) :
    Leads workspace.Follows (Build.share value) state fun shared _ => post shared :=
  ⟨follows_advance consistent, .modifyGet (holds _)⟩

theorem arch_foldl_addPcd (settings : List (PcdId × String)) (platform : Platform) :
    (settings.foldl (fun platform (id, value) => platform.addPcd id value) platform).arch =
      platform.arch := by
  induction settings generalizing platform with
  | nil => rfl
  | cons setting rest ih =>
    rw [List.foldl_cons, ih]
    rfl

theorem leads_platform (arch : String) (consistent : workspace.Consistent state) :
    Leads workspace.Follows (workspace.platform arch) state fun platform _ => platform.value.arch = arch := by
  have read : Ends (Catalog.platform workspace.store workspace.config.platform arch workspace.config.sku?)
      state.catalog fun platform _ => platform.value.arch = arch :=
    ((Catalog.keeps_platform arch).ends consistent.sound).mono fun _ _ ⟨_, read⟩ => read.arch_eq
  refine (leads_resolving (fun _ => catalogFollows_platform arch) read consistent).bind
    (onward_follows workspace) fun shared after follows same => ?_
  split
  · exact .pure follows.consistent.follows same
  · exact leads_share (fun _ => (arch_foldl_addPcd _ _).trans same) follows.consistent

theorem Consistent.keep_platform {context : PlatformContext} (consistent : workspace.Consistent state)
    (absent : state.contexts.platforms.get? (workspace.key .platform arch workspace.config.platform) = none)
    (archSame : context.arch = arch) (dataSame : context.data.arch = arch) :
    workspace.Follows state
      (BuildState.platformShelf.keep (workspace.key .platform arch workspace.config.platform) context
        state).2 := by
  rw [BuildStep.keep_of_absent absent]
  refine consistent.follows_later ⟨fun _ _ => id, fun _ _ => Table.get?_insert_of_absent absent _,
    fun _ _ _ => id⟩ rfl (fun other platform has => ?_) (fun _ _ _ => .inl) fun _ _ _ => .inl
  rw [HasPlatform, BuildState.platformShelf, Table.get?_insert] at has
  split at has
  · rename_i same
    obtain rfl : other = arch := congrArg ContextKey.arch same
    obtain rfl := Option.some.inj has
    exact .inr ⟨archSame, dataSame⟩
  · exact .inl has

theorem leads_platformContext (arch : String) (consistent : workspace.Consistent state) :
    Leads workspace.Follows (workspace.platformContext arch) state (workspace.HasPlatform arch) := by
  have made : Leads workspace.Follows (do
      let platform ← workspace.platform arch
      .ofChecked (PlatformContext.make workspace.config platform)) state
      fun context _ => context.arch = arch ∧ context.data.arch = arch := by
    refine (leads_platform arch consistent).bind (onward_follows workspace)
      fun platform after follows same => ?_
    refine .ofChecked follows.consistent.follows fun context ok => ?_
    obtain ⟨platformSame, archSame⟩ := platform_of_make ok
    exact ⟨archSame.trans same, by rwa [PlatformContext.data, platformSame]⟩
  have asked : Leads workspace.Follows (workspace.platformContext arch) state fun _ _ => True :=
    .request (onward_follows workspace) consistent.follows made
      fun context after follows same absent => follows.consistent.keep_platform absent same.1 same.2
  exact ⟨asked.onward, .request fun _ _ => rfl⟩

def packageGroup (workspace : Workspace) (platform : PlatformContext) (file : SourcePath) :
    Build (List (Shared Package)) := do
  let module ← workspace.module file platform.arch
  let libraries ← workspace.linked platform.data module
  return (module :: libraries).flatMap (·.value.packages)

theorem leads_packageGroup (platform : PlatformContext) (file : SourcePath)
    (consistent : workspace.Consistent state) :
    Leads workspace.Follows (workspace.packageGroup platform file) state fun group after =>
      ∃ part, Stands (workspace.parts platform file) after.catalog part ∧
        group = (part.1 :: part.2).flatMap (·.value.packages) := by
  refine (leads_module file platform.arch consistent).bind (onward_follows workspace) ?_
  intro module between follows found
  refine (leads_linked platform.data module follows.consistent).bind (onward_follows workspace) ?_
  intro libraries after more linked
  have stands : Stands (workspace.parts platform file) after.catalog (module, libraries) :=
    (found.mono more.outlasts.catalog).bind (linked.bind (.pure _ _))
  exact .pure more.consistent.follows ⟨(module, libraries), stands, rfl⟩

theorem map_file_distinctPackages (packages : List (Shared Package)) :
    (ModuleContext.distinctPackages packages).map (·.value.file) =
      distinct (packages.map (·.value.file)) := by
  rw [ModuleContext.distinctPackages, map_foldl_firstOf]
  exact foldl_addNew_nil _

theorem packagesOf_groups {platform : PlatformContext} {catalog : Catalog}
    {groups : List (List (Shared Package))}
    (grouped : Forall₂ (fun file group => ∃ part, Stands (workspace.parts platform file) catalog part ∧
      group = (part.1 :: part.2).flatMap (·.value.packages)) platform.data.components.keys groups) :
    workspace.PackagesOf platform ((ModuleContext.distinctPackages groups.flatten).map (·.value.file))
      catalog where
  nodup := by
    rw [map_file_distinctPackages]
    exact nodup_distinct _
  found component listed :=
    let ⟨_, _, part, stands, _⟩ := exists_of_mem_forall₂ grouped.flip listed
    ⟨part, stands⟩
  mem_iff file := by
    rw [map_file_distinctPackages, mem_distinct, List.mem_map]
    constructor
    · rintro ⟨package, member, named⟩
      obtain ⟨group, ofComponent, here⟩ := List.mem_flatten.1 member
      obtain ⟨component, listed, part, stands, rfl⟩ := exists_of_mem_forall₂ grouped ofComponent
      obtain ⟨module, among, has⟩ := List.mem_flatMap.1 here
      exact ⟨component, listed, part, stands, module, among, package, has, named⟩
    · rintro ⟨component, listed, part, stands, module, among, package, has, named⟩
      obtain ⟨group, ofComponent, other, otherStands, rfl⟩ := exists_of_mem_forall₂ grouped.flip listed
      obtain rfl := stands.unique otherStands
      exact ⟨package, List.mem_flatten.2 ⟨_, ofComponent, List.mem_flatMap.2 ⟨module, among, has⟩⟩, named⟩

theorem Consistent.keep_packages {packages : List (Shared Package)}
    (consistent : workspace.Consistent state) (foundFor : workspace.FoundFor arch packages state)
    (absent : state.contexts.packages.get? (workspace.key .packages arch file) = none) :
    workspace.Follows state
      (BuildState.packageShelf.keep (workspace.key .packages arch file) packages state).2 := by
  rw [BuildStep.keep_of_absent absent]
  refine consistent.follows_later ⟨fun _ _ => id, fun _ _ => id, fun _ _ _ => id⟩ rfl (fun _ _ => .inl)
    (fun _ _ _ => .inl) fun other place kept found => ?_
  rw [BuildState.packageShelf, Table.get?_insert] at found
  split at found
  · rename_i same
    obtain rfl : other = arch := congrArg ContextKey.arch same
    obtain rfl := Option.some.inj found
    exact .inr foundFor
  · exact .inl found

theorem leads_platformPackages (consistent : workspace.Consistent state)
    (has : workspace.HasPlatform arch platform state) :
    Leads workspace.Follows (workspace.platformPackages platform.value) state fun packages after =>
      workspace.FoundFor arch packages.value after := by
  have order := onward_follows workspace
  have archSame := (consistent.platforms arch platform has).1
  have made : Leads workspace.Follows (do
      let groups ← platform.value.data.components.keys.mapM (workspace.packageGroup platform.value)
      return ModuleContext.distinctPackages groups.flatten) state (workspace.FoundFor arch) := by
    refine Leads.bind order (.mapM order consistent.follows
      (fun file _ after follows => leads_packageGroup platform.value file follows.consistent) ?_) ?_
    · rintro file group after later follows ⟨part, stands, same⟩
      exact ⟨part, stands.mono follows.outlasts.catalog, same⟩
    · intro groups after follows grouped
      have has := follows.outlasts.platforms arch platform has
      exact .pure follows.consistent.follows ⟨platform, has, packagesOf_groups grouped⟩
  have asked : Leads workspace.Follows (workspace.platformPackages platform.value) state fun _ _ => True :=
    .request order consistent.follows made fun packages after follows found absent =>
      archSame ▸ follows.consistent.keep_packages found (archSame ▸ absent)
  have kept : Ends (workspace.platformPackages platform.value) state fun packages after =>
      after.contexts.packages.get? (workspace.key .packages platform.value.arch platform.value.file) =
        some packages :=
    .request fun _ _ => rfl
  refine ⟨asked.onward, (asked.ends_onward.and kept).mono ?_⟩
  rintro packages after ⟨⟨follows, -⟩, kept⟩
  exact follows.consistent.packages arch _ packages (archSame ▸ kept)

theorem of_make {context : ModuleContext} {platform : PlatformContext} {module : Shared Module}
    {libraries : List LinkedLibrary} {packages : List Package} {disk : Disk}
    (ok : ModuleContext.make platform module libraries packages disk = .ok context) :
    context.module = module ∧ context.libraries = libraries := by
  unfold ModuleContext.make at ok
  obtain ⟨modulePcds, -, ok⟩ := Checked.bind_eq_ok.1 ok
  obtain ⟨libraryPcds, -, ok⟩ := Checked.bind_eq_ok.1 ok
  obtain ⟨options, -, ok⟩ := Checked.bind_eq_ok.1 ok
  obtain rfl := Checked.pure_eq_ok.1 ok
  exact ⟨rfl, rfl⟩

theorem Consistent.keep_module {context : ModuleContext} (consistent : workspace.Consistent state)
    (assembled : workspace.Assembled arch file context state)
    (absent : state.contexts.modules.get? (workspace.key .module arch file) = none) :
    workspace.Follows state
      (BuildState.moduleShelf.keep (workspace.key .module arch file) context state).2 := by
  rw [BuildStep.keep_of_absent absent]
  refine consistent.follows_later ⟨fun _ _ => id, fun _ _ => id,
    fun _ _ _ => Table.get?_insert_of_absent absent _⟩ rfl (fun _ _ => .inl) (fun other place kept has => ?_)
    fun _ _ _ => .inl
  rw [HasModule, BuildState.moduleShelf, Table.get?_insert] at has
  split at has
  · rename_i same
    obtain rfl : other = arch := congrArg ContextKey.arch same
    obtain rfl : place = file := congrArg ContextKey.file same
    obtain rfl := Option.some.inj has
    exact .inr assembled
  · exact .inl has

def LinksOwn (workspace : Workspace) (arch : String) (library : Shared Module) (linked : LinkedLibrary)
    (state : BuildState) : Prop :=
  linked.library = library ∧ ∃ own, workspace.HasModule arch library.value.file own state ∧
    own.serial = linked.context ∧ own.value.module = linked.own

theorem LinksOwn.mono {library : Shared Module} {linked : LinkedLibrary} {later : BuildState}
    (links : workspace.LinksOwn arch library linked state) (outlasts : workspace.Outlasts state later) :
    workspace.LinksOwn arch library linked later := by
  obtain ⟨same, own, has, alike⟩ := links
  exact ⟨same, own, outlasts.modules arch _ own has, alike⟩

theorem assembled_of_make {module : Shared Module} {libraries : List (Shared Module)}
    {linked : List LinkedLibrary} {packages : List Package} {disk : Disk} {context : ModuleContext}
    (has : workspace.HasPlatform arch platform state)
    (stands : Stands (workspace.parts platform.value file) state.catalog (module, libraries))
    (links : Forall₂ (workspace.LinksOwn arch · · state) libraries linked)
    (ok : ModuleContext.make platform.value module linked packages disk = .ok context) :
    workspace.Assembled arch file context state := by
  obtain ⟨rfl, rfl⟩ := of_make ok
  have same : context.libraries.map (·.library) = libraries := by
    rw [← List.forall₂_eq_eq_eq, List.forall₂_map_left_iff]
    exact links.flip.imp fun _ _ links => links.1
  refine ⟨⟨platform, has, same ▸ stands⟩, fun one member => ?_⟩
  obtain ⟨library, -, rfl, own, hasOwn, alike⟩ := exists_of_mem_forall₂ links member
  exact ⟨own, hasOwn, alike⟩

theorem leads_assemble {build : SourcePath → Build (Shared ModuleContext)} (file : SourcePath)
    (consistent : workspace.Consistent state) (has : workspace.HasPlatform arch platform state)
    (builds : ∀ file after, workspace.Follows state after →
      Leads workspace.Follows (build file) after (workspace.HasModule arch file)) :
    Leads workspace.Follows (do
      let module ← workspace.module file platform.value.arch
      let libraries ← workspace.linked platform.value.data module
      let libraries ← libraries.mapM (linkContext build)
      let packages ← workspace.platformPackages platform.value
      .ofChecked (ModuleContext.make platform.value module libraries (packages.value.map Shared.value)
        (← get).disk)) state (workspace.Assembled arch file) := by
  have order := onward_follows workspace
  have links (library : Shared Module) (after : BuildState) (follows : workspace.Follows state after) :
      Leads workspace.Follows (linkContext build library) after (workspace.LinksOwn arch library) :=
    (builds library.value.file after follows).bind order fun own _ more hasOwn =>
      .pure more.consistent.follows ⟨rfl, own, hasOwn, rfl, rfl⟩
  refine (leads_module file _ consistent).bind order fun module first toFirst found => ?_
  refine (leads_linked _ module toFirst.consistent).bind order fun libraries second onward linked => ?_
  have toSecond := order.trans toFirst onward
  have stands : Stands (workspace.parts platform.value file) second.catalog (module, libraries) :=
    (found.mono onward.outlasts.catalog).bind (linked.bind (.pure _ _))
  have linkAll : Leads workspace.Follows (libraries.mapM (linkContext build)) second fun linked after =>
      Forall₂ (workspace.LinksOwn arch · · after) libraries linked :=
    .mapM order toSecond.consistent.follows
      (fun library _ after more => links library after (order.trans toSecond more))
      fun _ _ _ _ more links => links.mono more.outlasts
  refine linkAll.bind order fun linked third onward each => ?_
  have toThird := order.trans toSecond onward
  have has := toThird.outlasts.platforms arch platform has
  refine (leads_platformPackages toThird.consistent has).bind order fun packages fourth last _ => ?_
  refine Leads.bind order (.get last.consistent.follows) ?_
  rintro _ _ _ ⟨rfl, rfl⟩
  refine .ofChecked last.consistent.follows fun context ok => ?_
  have each := each.imp fun _ _ links => links.mono last.outlasts
  have stands := stands.mono fun key module found =>
    last.outlasts.catalog key module (onward.outlasts.catalog key module found)
  exact assembled_of_make (last.outlasts.platforms arch platform has) stands each ok

theorem leads_moduleContextWithin (depth : Nat) (file : SourcePath) (consistent : workspace.Consistent state)
    (has : workspace.HasPlatform arch platform state) :
    Leads workspace.Follows (workspace.moduleContextWithin platform.value depth file) state
      (workspace.HasModule arch file) := by
  have archSame := (consistent.platforms arch platform has).1
  induction depth generalizing file state with
  | zero => exact .throw _ consistent.follows
  | succ depth ih =>
    have made := leads_assemble file consistent has fun other after follows =>
      ih other follows.consistent (follows.outlasts.platforms arch platform has)
    have asked : Leads workspace.Follows (workspace.moduleContextWithin platform.value (depth + 1) file) state
        fun _ _ => True :=
      .request (onward_follows workspace) consistent.follows made
        fun context after follows assembled absent =>
          archSame ▸ follows.consistent.keep_module assembled (archSame ▸ absent)
    exact ⟨asked.onward, archSame ▸ .request fun _ _ => rfl⟩

theorem leads_moduleContext (file : SourcePath) (consistent : workspace.Consistent state)
    (has : workspace.HasPlatform arch platform state) :
    Leads workspace.Follows (workspace.moduleContext platform.value file) state
      (workspace.HasModule arch file) := leads_moduleContextWithin _ file consistent has

theorem leads_knownModule? (file : SourcePath) (arch : String) (consistent : workspace.Consistent state) :
    Leads workspace.Follows (workspace.knownModule? file arch) state fun _ _ => True := by
  have order := onward_follows workspace
  refine (leads_platformContext arch consistent).bind order fun platform after follows has => ?_
  refine Leads.bind order (.get follows.consistent.follows) ?_
  rintro _ _ follows ⟨rfl, rfl⟩
  dsimp only
  split
  · exact (leads_moduleContext file follows.consistent has).bind order fun _ _ follows _ =>
      .pure follows.consistent.follows trivial
  · exact .pure follows trivial

theorem leads_moduleContexts (arch : String) (consistent : workspace.Consistent state) :
    Leads workspace.Follows (workspace.moduleContexts arch) state fun contexts after =>
      ∃ platform, workspace.HasPlatform arch platform after ∧
        Forall₂ (workspace.HasModule arch · · after) platform.value.data.components.keys contexts := by
  have order := onward_follows workspace
  refine (leads_platformContext arch consistent).bind order fun platform first toFirst has => ?_
  have each : Leads workspace.Follows (platform.value.data.components.keys.mapM
      (workspace.moduleContext platform.value)) first fun contexts after =>
        Forall₂ (workspace.HasModule arch · · after) platform.value.data.components.keys contexts :=
    .mapM order toFirst.consistent.follows
      (fun file _ after follows => leads_moduleContext file follows.consistent
        (follows.outlasts.platforms arch platform has))
      fun file context _ _ follows => follows.outlasts.modules arch file context
  exact ⟨each.onward, each.ends_onward.mono fun _ _ ⟨follows, each⟩ =>
    ⟨platform, follows.outlasts.platforms arch platform has, each⟩⟩

end UefiBuild.Workspace
