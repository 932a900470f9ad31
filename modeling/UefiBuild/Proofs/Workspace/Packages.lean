import UefiBuild.Proofs.Workspace.Following

namespace UefiBuild.Workspace

open BuildStep (Ends Keeps Leads afterAll)
open Catalog (Stands)
open List (Forall₂)

variable {workspace : Workspace} {arch : String} {platform : Shared PlatformContext} {state : BuildState}

theorem map_file_distinctLibraries (contexts : List ModuleContext) :
    (distinctLibraries contexts).map (·.own.value.file) =
      distinct ((contexts.flatMap (·.libraries)).map (·.own.value.file)) := by
  rw [distinctLibraries, map_foldl_firstOf]
  exact foldl_addNew_nil _

theorem exists_links_of_mem {contexts : List ModuleContext} {linked : LinkedLibrary}
    (member : linked ∈ distinctLibraries contexts) : ∃ context ∈ contexts, linked ∈ context.libraries := by
  have offered : ∀ linked ∈ distinctLibraries contexts, linked ∈ contexts.flatMap (·.libraries) := by
    refine List.foldlRecOn (motive := fun known => ∀ linked ∈ known, linked ∈ contexts.flatMap (·.libraries))
      _ _ (fun _ none => absurd none List.not_mem_nil) fun known taken next offered linked member => ?_
    split at member
    · exact taken linked member
    · rcases List.mem_append.1 member with old | new
      · exact taken linked old
      · exact List.mem_singleton.1 new ▸ offered
  exact List.mem_flatMap.1 (offered linked member)

section Listed

variable {contexts : List (Shared ModuleContext)}

/-- What the contexts of all components link, the components link. The contexts of the libraries are of the
very modules that are linked. -/
structure Assembles (workspace : Workspace) (platform : PlatformContext)
    (contexts : List (Shared ModuleContext)) (catalog : Catalog) : Prop where
  parts : Forall₂ (fun file context => Stands (workspace.parts platform file) catalog
    (context.value.module, context.value.libraries.map (·.library))) platform.data.components.keys contexts
  own : ∀ context ∈ contexts, ∀ linked ∈ context.value.libraries, linked.own = linked.library

theorem assembles_of_contexts (consistent : workspace.Consistent state)
    (has : workspace.HasPlatform arch platform state)
    (each : Forall₂ (workspace.HasModule arch · · state) platform.value.data.components.keys contexts) :
    workspace.Assembles platform.value contexts state.catalog where
  parts := by
    refine each.imp fun file context hasModule => ?_
    obtain ⟨other, hasOther, stands⟩ := (consistent.modules arch file context hasModule).parts
    rwa [has.unique hasOther]
  own context member linked links := by
    obtain ⟨file, -, hasModule⟩ := exists_of_mem_forall₂ each member
    exact (consistent.modules arch file context hasModule).own_eq consistent links

theorem Assembles.own_of_mem {catalog : Catalog}
    (assembles : workspace.Assembles platform.value contexts catalog) {linked : LinkedLibrary}
    (taken : linked ∈ distinctLibraries (contexts.map Shared.value)) :
    ∃ context ∈ contexts, linked ∈ context.value.libraries ∧ linked.own = linked.library := by
  obtain ⟨_, ofSome, links⟩ := exists_links_of_mem taken
  obtain ⟨context, member, rfl⟩ := List.mem_map.1 ofSome
  exact ⟨context, member, links, assembles.own context member linked links⟩

theorem mem_distinctLibraries (consistent : workspace.Consistent state)
    (assembles : workspace.Assembles platform.value contexts state.catalog)
    {context : Shared ModuleContext} (member : context ∈ contexts) {library : Shared Module}
    (links : library ∈ context.value.libraries.map (·.library)) :
    ∃ linked ∈ distinctLibraries (contexts.map Shared.value), linked.own = library := by
  -- The catalog keeps one module for each file.
  have kept : ∀ context ∈ contexts, ∀ linked ∈ context.value.libraries,
      state.catalog.modules.get? (linked.library.value.file, platform.value.data.arch) =
        some linked.library := by
    intro context member linked links
    obtain ⟨_, _, stands⟩ := exists_of_mem_forall₂ assembles.parts member
    exact (parts_kept consistent.filled stands).2 linked.library (List.mem_map_of_mem links)
  obtain ⟨linked, ofContext, rfl⟩ := List.mem_map.1 links
  have listed : linked.own.value.file ∈
      (distinctLibraries (contexts.map Shared.value)).map (·.own.value.file) := by
    rw [map_file_distinctLibraries, mem_distinct, List.mem_map]
    exact ⟨linked, List.mem_flatMap.2 ⟨context.value, List.mem_map_of_mem member, ofContext⟩, rfl⟩
  obtain ⟨first, taken, named⟩ := List.mem_map.1 listed
  obtain ⟨other, otherMember, firstLinks, same⟩ := assembles.own_of_mem taken
  have here := kept context member linked ofContext
  have there := kept other otherMember first firstLinks
  rw [same, assembles.own context member linked ofContext] at named
  rw [named, here] at there
  exact ⟨first, taken, same.trans (Option.some.inj there).symm⟩

theorem packagesOf_contexts (consistent : workspace.Consistent state)
    (assembles : workspace.Assembles platform.value contexts state.catalog) :
    workspace.PackagesOf platform.value ((ModuleContext.packagesOf (contexts.map (·.value.data) ++
      (distinctLibraries (contexts.map Shared.value)).map fun linked => linked.own.value)).map
        (·.value.file)) state.catalog where
  nodup := by
    rw [ModuleContext.packagesOf, map_file_distinctPackages]
    exact nodup_distinct _
  found component listed :=
    let ⟨_, _, stands⟩ := exists_of_mem_forall₂ assembles.parts.flip listed
    ⟨_, stands⟩
  mem_iff file := by
    rw [ModuleContext.packagesOf, map_file_distinctPackages, mem_distinct, List.mem_map]
    constructor
    · rintro ⟨package, member, named⟩
      obtain ⟨module, among, has⟩ := List.mem_flatMap.1 member
      rcases List.mem_append.1 among with ofOne | ofLibrary
      · obtain ⟨context, ofContext, rfl⟩ := List.mem_map.1 ofOne
        obtain ⟨component, listed, stands⟩ := exists_of_mem_forall₂ assembles.parts ofContext
        exact ⟨component, listed, _, stands, context.value.module, by simp, package, has, named⟩
      · obtain ⟨linked, taken, rfl⟩ := List.mem_map.1 ofLibrary
        obtain ⟨context, ofContext, links, same⟩ := assembles.own_of_mem taken
        obtain ⟨component, listed, stands⟩ := exists_of_mem_forall₂ assembles.parts ofContext
        rw [same] at has
        exact ⟨component, listed, _, stands, linked.library,
          List.mem_cons_of_mem _ (List.mem_map_of_mem links), package, has, named⟩
    · rintro ⟨component, listed, part, stands, module, among, package, has, named⟩
      obtain ⟨context, ofContext, contextStands⟩ := exists_of_mem_forall₂ assembles.parts.flip listed
      obtain rfl := stands.unique contextStands
      refine ⟨package, List.mem_flatMap.2 ⟨module.value, List.mem_append.2 ?_, has⟩, named⟩
      rcases List.mem_cons.1 among with rfl | links
      · exact .inl (List.mem_map_of_mem ofContext)
      · obtain ⟨linked, taken, rfl⟩ := mem_distinctLibraries consistent assembles ofContext links
        exact .inr (List.mem_map_of_mem taken)

end Listed

theorem leads_libraryContexts (arch : String) (consistent : workspace.Consistent state) :
    Leads workspace.Follows (workspace.libraryContexts arch) state fun libraries after =>
      ∃ platform contexts, workspace.HasPlatform arch platform after ∧
        Forall₂ (workspace.HasModule arch · · after) platform.value.data.components.keys contexts ∧
        libraries = distinctLibraries (contexts.map Shared.value) :=
  (leads_moduleContexts arch consistent).bind (onward_follows workspace) fun contexts _ follows made =>
    let ⟨platform, has, each⟩ := made
    .pure follows.consistent.follows ⟨platform, contexts, has, each, rfl⟩

theorem leads_packageList (arch : String) (consistent : workspace.Consistent state) :
    Leads workspace.Follows (workspace.packageList arch) state (workspace.FoundFor arch) := by
  have order := onward_follows workspace
  refine (leads_moduleContexts arch consistent).bind order fun contexts first toFirst made => ?_
  obtain ⟨platform, has, each⟩ := made
  refine (leads_libraryContexts arch toFirst.consistent).bind order fun libraries after more made => ?_
  obtain ⟨again, others, hasAgain, otherEach, rfl⟩ := made
  have has := more.outlasts.platforms arch platform has
  obtain rfl := has.unique hasAgain
  -- The second look at the contexts finds those that the first one has left.
  have same : contexts = others := by
    rw [← List.forall₂_eq_eq_eq]
    refine forall₂_trans (fun context file another hasContext hasAnother => ?_) each.flip otherEach
    exact (more.outlasts.modules arch file context hasContext).unique hasAnother
  subst same
  have assembles := assembles_of_contexts more.consistent has otherEach
  exact .pure more.consistent.follows ⟨platform, has, packagesOf_contexts more.consistent assembles⟩

section Plan

variable {earlier : BuildState}

theorem follows_packageList (arch : String) :
    Keeps (workspace.Follows earlier) (workspace.packageList arch) fun _ => True :=
  Leads.keeps (onward_follows workspace) (fun _ here =>
    (leads_packageList arch here.consistent).mono fun _ _ _ => trivial) earlier

theorem follows_warn (warning : Warning) :
    Keeps (workspace.Follows earlier) (Build.warn warning) fun _ => True :=
  Leads.keeps (onward_follows workspace) (fun _ here => leads_warn warning here.consistent) earlier

theorem follows_written (state : BuildState) (disk : Disk) (toolCalls : List (String × HostPath))
    (follows : workspace.Follows earlier state) :
    workspace.Follows earlier { state with disk, toolCalls } := by
  have outlasts : workspace.Outlasts state { state with disk, toolCalls } :=
    ⟨fun _ _ => id, fun _ _ => id, fun _ _ _ => id⟩
  have consistent := follows.consistent
  refine (onward_follows workspace).trans follows ⟨⟨consistent.filled, consistent.sound, consistent.platforms,
    fun arch file context has => ?_, consistent.packages⟩, outlasts⟩
  exact (consistent.modules arch file context has).mono outlasts

theorem leads_collectModules (layout : PcdLayout) (consistent : workspace.Consistent state)
    (has : workspace.HasPlatform arch platform state) :
    Leads workspace.Follows (workspace.collectModules platform.value layout) state fun _ _ => True := by
  have order := onward_follows workspace
  refine .foldlM order consistent.follows fun layout file _ after follows => ?_
  have has := follows.outlasts.platforms arch platform has
  exact (leads_moduleContext file follows.consistent has).bind order fun _ _ follows _ =>
    .pure follows.consistent.follows trivial

theorem follows_stageOffsets (platform : PlatformContext) (tool : OffsetTool) (layout : PcdLayout) :
    Keeps (workspace.Follows earlier) (workspace.stageOffsets platform tool layout) fun _ => True :=
  keeps_stageOffsets_of follows_warn follows_packageList follows_written platform tool layout

theorem follows_collectPlatforms (tool : OffsetTool) (layout : PcdLayout) (arches : List String) :
    Keeps (workspace.Follows earlier) (workspace.collectPlatforms tool layout arches) fun _ => True := by
  have order := onward_follows workspace
  refine keeps_collectPlatforms_of (fun arch layout => Leads.keeps order (fun state here => ?_) earlier)
    (fun platform => follows_stageOffsets platform tool) layout arches
  refine (leads_platformContext arch here.consistent).bind order fun platform after follows has => ?_
  exact (leads_collectModules layout follows.consistent has).bind order fun _ _ follows _ =>
    .pure follows.consistent.follows trivial

theorem follows_plan (tool : OffsetTool) :
    Keeps (workspace.Follows earlier) (workspace.plan tool) fun _ => True := by
  refine (follows_collectPlatforms tool {} workspace.config.arches).bind fun (platforms, layout) _ => ?_
  refine (keeps_checkTokenValues_of follows_packageList _).bind fun _ _ => ?_
  exact (keeps_checkAccess_of follows_warn follows_packageList _).bind fun _ _ => .pure trivial

end Plan

def packagesFor (workspace : Workspace) (arch : String) : Build (Shared (List (Shared Package))) := do
  let platform ← workspace.platformContext arch
  workspace.platformPackages platform.value

inductive Query
  | platform (arch : String)
  | module (file : SourcePath) (arch : String)
  | modules (arch : String)
  | libraries (arch : String)
  | packages (arch : String)
  | platformPackages (arch : String)

def ask (workspace : Workspace) : Query → Build Unit
  | .platform arch => discard (workspace.platformContext arch)
  | .module file arch => discard (workspace.knownModule? file arch)
  | .modules arch => discard (workspace.moduleContexts arch)
  | .libraries arch => discard (workspace.libraryContexts arch)
  | .packages arch => discard (workspace.packageList arch)
  | .platformPackages arch => discard (workspace.packagesFor arch)

theorem leads_packagesFor (arch : String) (consistent : workspace.Consistent state) :
    Leads workspace.Follows (workspace.packagesFor arch) state fun packages after =>
      workspace.FoundFor arch packages.value after :=
  (leads_platformContext arch consistent).bind (onward_follows workspace)
    fun _ _ follows has => leads_platformPackages follows.consistent has

theorem leads_ask (query : Query) (consistent : workspace.Consistent state) :
    Leads workspace.Follows (workspace.ask query) state fun _ _ => True := by
  have order := onward_follows workspace
  cases query with
  | platform arch => exact ((leads_platformContext arch consistent).mono fun _ _ _ => trivial).map order
  | module file arch => exact (leads_knownModule? file arch consistent).map order
  | modules arch => exact ((leads_moduleContexts arch consistent).mono fun _ _ _ => trivial).map order
  | libraries arch => exact ((leads_libraryContexts arch consistent).mono fun _ _ _ => trivial).map order
  | packages arch => exact ((leads_packageList arch consistent).mono fun _ _ _ => trivial).map order
  | platformPackages arch => exact ((leads_packagesFor arch consistent).mono fun _ _ _ => trivial).map order

theorem follows_queries {earlier : BuildState} (queries : List Query)
    (follows : workspace.Follows earlier state) :
    workspace.Follows earlier (afterAll (queries.map workspace.ask) state) := by
  refine BuildStep.afterAll_holds (fun step member => ?_) follows
  obtain ⟨query, -, rfl⟩ := List.mem_map.1 member
  exact Leads.keeps (onward_follows workspace) (fun _ here => leads_ask query here.consistent) earlier

def asked (workspace : Workspace) (tool : OffsetTool) (disk : Disk) (queries : List Query) : BuildState :=
  afterAll (queries.map workspace.ask) ((workspace.plan tool).run.run { disk }).2

theorem consistent_asked (tool : OffsetTool) (disk : Disk) (queries : List Query) :
    workspace.Consistent (workspace.asked tool disk queries) := by
  have planned := (follows_plan tool _ (workspace.consistent_fresh disk).follows).1
  exact (follows_queries queries planned).consistent

structure SamePackages (one other : List (Shared Package)) : Prop where
  nodup : (one.map (·.value.file)).Nodup
  nodup_other : (other.map (·.value.file)).Nodup
  mem_iff : ∀ file, file ∈ one.map (·.value.file) ↔ file ∈ other.map (·.value.file)

theorem SamePackages.symm {one other : List (Shared Package)} (same : SamePackages one other) :
    SamePackages other one := ⟨same.nodup_other, same.nodup, fun file => (same.mem_iff file).symm⟩

theorem FoundFor.samePackages {one other : List (Shared Package)} (found : workspace.FoundFor arch one state)
    (foundOther : workspace.FoundFor arch other state) : SamePackages one other := by
  obtain ⟨platform, has, packagesOf⟩ := found
  obtain ⟨again, hasAgain, otherOf⟩ := foundOther
  obtain rfl := has.unique hasAgain
  exact ⟨packagesOf.nodup, otherOf.nodup, fun file =>
    (packagesOf.mem_iff file).trans (otherOf.mem_iff file).symm⟩

theorem samePackages_of_leads {α β : Type} {one : Build α} {other : Build β}
    {files : α → List (Shared Package)} {otherFiles : β → List (Shared Package)} {a : α} {b : β}
    {start after last : BuildState}
    (leads : ∀ {state}, workspace.Consistent state →
      Leads workspace.Follows one state fun a after => workspace.FoundFor arch (files a) after)
    (otherLeads : ∀ {state}, workspace.Consistent state →
      Leads workspace.Follows other state fun b after => workspace.FoundFor arch (otherFiles b) after)
    (consistent : workspace.Consistent start) (ran : one.run.run start = (.ok a, after))
    (between : List Query)
    (otherRan : other.run.run (afterAll (between.map workspace.ask) after) = (.ok b, last)) :
    SamePackages (files a) (otherFiles b) := by
  obtain ⟨first, found⟩ := (leads consistent).ends_onward a after ran
  have onward := follows_queries between first.consistent.follows
  obtain ⟨second, foundLater⟩ := (otherLeads onward.consistent).ends_onward b last otherRan
  have whole := (onward_follows workspace).trans onward second
  exact (found.mono whole.outlasts).samePackages foundLater

/-- The packages of the platform and those that are listed from the contexts have the same descriptors, each
once, whatever has been asked before or in between, and whichever is asked for first. -/
theorem packageList_platformPackages (workspace : Workspace) (tool : OffsetTool) (disk : Disk)
    (before between : List Query) (arch : String) :
    let start := workspace.asked tool disk before
    (∀ found after listed last,
      (workspace.packagesFor arch).run.run start = (.ok found, after) →
      (workspace.packageList arch).run.run (afterAll (between.map workspace.ask) after) = (.ok listed, last) →
        SamePackages found.value listed) ∧
    (∀ listed after found last,
      (workspace.packageList arch).run.run start = (.ok listed, after) →
      (workspace.packagesFor arch).run.run (afterAll (between.map workspace.ask) after) = (.ok found, last) →
        SamePackages found.value listed) := by
  have consistent := workspace.consistent_asked tool disk before
  constructor
  · intro found after listed last ran ranLater
    exact samePackages_of_leads (leads_packagesFor arch) (leads_packageList arch) consistent ran between
      ranLater
  · intro listed after found last ran ranLater
    exact (samePackages_of_leads (leads_packageList arch) (leads_packagesFor arch) consistent ran between
      ranLater).symm

def threePackages : Workspace :=
  let row (place : Section) (values : List String) : Section × Record := (place, { values })
  let platform := [
    row .defines ["PLATFORM_NAME", "P"],
    row .defines ["PLATFORM_GUID", "G"],
    row .components ["App.inf"],
    row .components ["Tool.inf"],
    row .libraryClasses ["L", "L.inf"]]
  let package := [
    row .defines ["PACKAGE_NAME", "P"],
    row .defines ["PACKAGE_GUID", "G"]]
  let module (name type dec : String) (rows : List (Section × Record)) := [
    row .defines ["INF_VERSION", "0x00010005"],
    row .defines ["BASE_NAME", name],
    row .defines ["MODULE_TYPE", type],
    row .packages [dec]] ++ rows
  { store := { files := .ofList [
      (.ofText "P.dsc", platform),
      (.ofText "App.dec", package), (.ofText "L.dec", package), (.ofText "Tool.dec", package),
      (.ofText "App.inf", module "App" "UEFI_APPLICATION" "App.dec" [row .libraryClasses ["L"]]),
      (.ofText "Tool.inf", module "Tool" "UEFI_APPLICATION" "Tool.dec" []),
      (.ofText "L.inf", module "L" "BASE" "L.dec" [row .defines ["LIBRARY_CLASS", "L"]])] }
    config := {
      workspace := ⟨"ws"⟩
      platform := .ofText "P.dsc"
      target := "DEBUG"
      toolchain := "GCC5"
      arches := ["X64"]
      tools := ⟨.ofList [("*_*_*_MAKE_PATH", "make")]⟩ } }

def fileNames (packages : List (Shared Package)) : List String := packages.map (·.value.file.text)

/-- The two ways find the same packages in different orders. -/
theorem packageList_platformPackages_threePackages :
    let start := threePackages.asked .idle {} [.libraries "X64"]
    ((threePackages.plan .idle).run.run {}).1.toOption.isSome ∧
    (∃ found after listed last,
      (threePackages.packagesFor "IA32").run.run start = (.ok found, after) ∧
      (threePackages.packageList "IA32").run.run
        (afterAll ([.module (.ofText "None.inf") "IA32"].map threePackages.ask) after) = (.ok listed, last) ∧
      fileNames found.value = ["App.dec", "L.dec", "Tool.dec"] ∧
      fileNames listed = ["App.dec", "Tool.dec", "L.dec"] ∧ SamePackages found.value listed) ∧
    ∃ listed after found last,
      (threePackages.packageList "X64").run.run start = (.ok listed, after) ∧
      (threePackages.packagesFor "X64").run.run (afterAll ([].map threePackages.ask) after) =
        (.ok found, last) ∧
      SamePackages found.value listed := by
  intro start
  have holds (between : List Query) (arch : String) :=
    packageList_platformPackages threePackages .idle {} [.libraries "X64"] between arch
  refine ⟨by decide +kernel, ?_, ?_⟩
  · have shown : ((threePackages.packagesFor "IA32").run.run start).1.toOption.map (fileNames ·.value) =
        some ["App.dec", "L.dec", "Tool.dec"] := by decide +kernel
    have shownLater : ((threePackages.packageList "IA32").run.run
        (afterAll ([.module (.ofText "None.inf") "IA32"].map threePackages.ask)
          ((threePackages.packagesFor "IA32").run.run start).2)).1.toOption.map fileNames =
        some ["App.dec", "Tool.dec", "L.dec"] := by decide +kernel
    obtain ⟨found, after, ran, names⟩ := BuildStep.exists_of_toOption shown
    rw [ran] at shownLater
    obtain ⟨listed, last, ranLater, namesLater⟩ := BuildStep.exists_of_toOption shownLater
    exact ⟨found, after, listed, last, ran, ranLater, names, namesLater,
      (holds _ "IA32").1 found after listed last ran ranLater⟩
  · have shown : ((threePackages.packageList "X64").run.run start).1.toOption.map fileNames =
        some ["App.dec", "Tool.dec", "L.dec"] := by decide +kernel
    have shownLater : ((threePackages.packagesFor "X64").run.run
        (afterAll ([].map threePackages.ask)
          ((threePackages.packageList "X64").run.run start).2)).1.toOption.map (fileNames ·.value) =
        some ["App.dec", "L.dec", "Tool.dec"] := by decide +kernel
    obtain ⟨listed, after, ran, -⟩ := BuildStep.exists_of_toOption shown
    rw [ran] at shownLater
    obtain ⟨found, last, ranLater, -⟩ := BuildStep.exists_of_toOption shownLater
    exact ⟨listed, after, found, last, ran, ranLater, (holds [] "X64").2 listed after found last ran ranLater⟩

end UefiBuild.Workspace
