import UefiBuild.Proofs.Step
import UefiBuild.Workspace.Plan

namespace UefiBuild.Workspace

open BuildStep (Keeps)
open List (Forall₂)

def linkContext (build : SourcePath → Build (Shared ModuleContext)) (library : Shared Module) :
    Build LinkedLibrary := do
  let context ← build library.value.file
  return { library, context := context.serial, own := context.value.module }

theorem keeps_linkContext {inv : BuildState → Prop} {build : SourcePath → Build (Shared ModuleContext)}
    {library : Shared Module} {post : Shared ModuleContext → Prop}
    (keeps : Keeps inv (build library.value.file) post) :
    Keeps inv (linkContext build library) fun linked =>
      linked.library = library ∧ ∃ context, post context ∧ linked.context = context.serial :=
  keeps.bind fun context holds => .pure ⟨rfl, context, holds, rfl⟩

theorem keeps_packageList_of {inv : BuildState → Prop} {workspace : Workspace} {arch : String}
    (contexts : Keeps inv (workspace.moduleContexts arch) fun _ => True) :
    Keeps inv (workspace.packageList arch) fun _ => True := by
  have libraries : Keeps inv (workspace.libraryContexts arch) fun _ => True :=
    contexts.bind fun _ _ => .pure trivial
  exact contexts.bind fun _ _ => libraries.bind fun _ _ => .pure trivial

theorem keeps_changeDisk_of {inv : BuildState → Prop} {ε : Type} {change : Disk → Except ε Disk}
    {failure : ε → Failure} (kept : ∀ state disk, inv state → inv { state with disk }) :
    Keeps inv (changeDisk change failure) fun _ => True := by
  refine Keeps.get.bind fun state _ => ?_
  split
  · exact .modify fun state => kept state _
  · exact .throw _

theorem keeps_readOffsets_of {inv : BuildState → Prop} (file : OffsetFile) (layout : PcdLayout)
    (map : HostPath) : Keeps inv (readOffsets file layout map) fun _ => True := by
  unfold readOffsets
  refine Keeps.get.bind fun state _ => ?_
  dsimp only
  split
  · exact .throw _
  · refine (Keeps.ofChecked _).bind fun _ _ => ?_
    have placed : ∀ item ∈ layout.dynamic, Keeps inv (do
        let pcd ← .ofChecked (OffsetStage.assignOffsets (file.readFrom state.disk map).1
          (.ofText map.text) item.pcd)
        return { item with pcd }) fun _ : DynamicPcd => True :=
      fun _ _ => (Keeps.ofChecked _).bind fun _ _ => .pure trivial
    exact (Keeps.mapM placed).bind fun _ _ => .pure trivial

theorem keeps_fixOffsets_of {inv : BuildState → Prop}
    (written : ∀ state disk toolCalls, inv state → inv { state with disk, toolCalls })
    (platform : PlatformContext) (tool : OffsetTool) (stage : OffsetStage) :
    Keeps inv (fixOffsets platform tool stage) fun _ => True := by
  have changed {ε : Type} (change : Disk → Except ε Disk) (failure : ε → Failure) :
      Keeps inv (changeDisk change failure) fun _ => True :=
    keeps_changeDisk_of fun state disk => written state disk state.toolCalls
  unfold fixOffsets
  dsimp only
  split
  · exact .throw _
  · refine (changed _ _).bind fun _ _ => ?_
    refine (Keeps.require _ _).bind fun guid _ => (changed _ _).bind fun _ _ => ?_
    refine (Keeps.ofChecked _).bind fun path _ => ?_
    have run (input : HostPath) : Keeps inv (runTool tool path input) fun _ => True :=
      fun state before => ⟨written state _ _ before, fun _ _ => trivial⟩
    refine (run _).bind fun _ _ => ?_
    split
    · exact keeps_readOffsets_of _ _ _
    · exact .pure trivial

section

variable {inv : BuildState → Prop} (warned : ∀ warning, Keeps inv (Build.warn warning) fun _ => True)
include warned

theorem keeps_stageUnused_of (platform : Platform) (packages : List Package) (stage : OffsetStage)
    (id : PcdId) : Keeps inv (OffsetStage.stageUnused platform packages stage id) fun _ => True := by
  unfold OffsetStage.stageUnused
  dsimp only
  split
  · exact .pure trivial
  · split
    · exact .pure trivial
    · exact (Keeps.forM fun _ _ => warned _).bind fun _ _ => .pure trivial

variable {workspace : Workspace}
  (packages : ∀ arch, Keeps inv (workspace.packageList arch) fun _ => True)
include packages

theorem keeps_stageOffsets_of
    (written : ∀ state disk toolCalls, inv state → inv { state with disk, toolCalls })
    (platform : PlatformContext) (tool : OffsetTool) (layout : PcdLayout) :
    Keeps inv (workspace.stageOffsets platform tool layout) fun _ => True := by
  unfold stageOffsets
  dsimp only
  refine (Keeps.ofChecked _).bind fun used _ => ?_
  have finish (staged : OffsetStage) : Keeps inv
      (if staged.file.count = 0 then return staged.layout else fixOffsets platform tool staged)
      fun _ => True := by
    split
    · exact .pure trivial
    · exact keeps_fixOffsets_of written platform tool staged
  split
  · refine (packages platform.arch).bind fun packages _ => ?_
    have staged : Keeps inv ((OffsetStage.flashIds platform.data).foldlM
        (OffsetStage.stageUnused platform.data (packages.map Shared.value)) used) fun _ => True :=
      .foldlM trivial fun stage id _ _ => keeps_stageUnused_of warned _ _ stage id
    exact staged.bind fun staged _ => finish staged
  · rw [pure_bind]
    exact finish used

theorem keeps_checkAccess_of (platforms : List PlatformContext) :
    Keeps inv (workspace.checkAccess platforms) fun _ => True := by
  have undeclared : ∀ platform ∈ platforms, Keeps inv (do
      let packages ← workspace.packageList platform.arch
      let ids ← .ofChecked (undeclaredPcds platform.data (packages.map Shared.value))
      return ids.map (·, platform.arch)) fun _ => True := fun platform _ =>
    (packages platform.arch).bind fun _ _ => (Keeps.ofChecked _).bind fun _ _ => .pure trivial
  exact (Keeps.mapM undeclared).bind fun _ _ => .forM fun _ _ => warned _

omit warned

theorem keeps_checkTokenValues_of (platforms : List PlatformContext) :
    Keeps inv (workspace.checkTokenValues platforms) fun _ => True :=
  .forM fun platform _ => (packages platform.arch).bind fun _ _ =>
    .forM fun _ _ => (Keeps.ofChecked _).mono fun _ _ => trivial

end

theorem keeps_collectPlatforms_of {inv : BuildState → Prop} {workspace : Workspace} {tool : OffsetTool}
    (takenIn : ∀ arch layout, Keeps inv (do
      let platform ← workspace.platformContext arch
      let layout ← workspace.collectModules platform.value layout
      return (platform, layout)) fun _ => True)
    (settled : ∀ platform layout, Keeps inv (workspace.stageOffsets platform tool layout) fun _ => True)
    (layout : PcdLayout) (arches : List String) :
    Keeps inv (workspace.collectPlatforms tool layout arches) fun _ => True := by
  induction arches generalizing layout with
  | nil => exact .pure trivial
  | cons arch others ih =>
    have inTwo : workspace.collectPlatforms tool layout (arch :: others) = (do
        let platform ← workspace.platformContext arch
        let layout ← workspace.collectModules platform.value layout
        return (platform, layout)) >>= fun taken => do
          .ofChecked (taken.2.check taken.1.value.file)
          let layout ←
            if others.isEmpty then PcdLayout.ordered <$> workspace.stageOffsets taken.1.value tool taken.2
            else pure taken.2
          let rest ← workspace.collectPlatforms tool layout others
          return (taken.1 :: rest.1, rest.2) := by
      simp [collectPlatforms]
    rw [inTwo]
    refine (takenIn arch layout).bind fun taken _ => (Keeps.ofChecked _).bind fun _ _ => ?_
    split
    · have ordered : Keeps inv (PcdLayout.ordered <$> workspace.stageOffsets taken.1.value tool taken.2)
          fun _ => True := .map (settled taken.1.value taken.2)
      exact ordered.bind fun layout _ => (ih layout).bind fun _ _ => .pure trivial
    · rw [pure_bind]
      exact (ih taken.2).bind fun _ _ => .pure trivial

section

variable {inv : BuildState → Prop} {good : Shared Module → Prop} {workspace : Workspace}
  {platform : PlatformContext}
  (modules : ∀ file, Keeps inv (workspace.module file platform.arch) good)
  (links : ∀ module, good module → Keeps inv (workspace.linked platform.data module) fun libraries =>
    ∀ library ∈ libraries, good library)
include modules links

theorem keeps_platformPackages_of
    (kept : ∀ state, inv state → ∀ packages,
      inv (BuildState.packageShelf.replace (Numbered.advance state) packages)) :
    Keeps inv (workspace.platformPackages platform) fun _ => True := by
  have group : ∀ file ∈ platform.data.components.keys, Keeps inv (do
      let module ← workspace.module file platform.arch
      let libraries ← workspace.linked platform.data module
      return (module :: libraries).flatMap (·.value.packages)) fun _ => True := fun file _ =>
    (modules file).bind fun module holds => (links module holds).bind fun _ _ => .pure trivial
  have made := (Keeps.mapM group).bind fun groups _ =>
    (Keeps.pure trivial : Keeps inv (pure (ModuleContext.distinctPackages groups.flatten)) fun _ => True)
  exact .request (fun _ _ _ _ => trivial) made fun state before _ _ => kept state before _

/-- What holds of the contexts that are kept holds of the next one, if it follows from the way in which
contexts are made. -/
theorem keeps_moduleContextWithin_of (fine : ModuleContext → Prop)
    (packages : Keeps inv (workspace.platformPackages platform) fun _ => True)
    (known : ∀ state, inv state → ∀ file context,
      state.contexts.modules.get? (workspace.key .module platform.arch file) = some context →
        fine context.value)
    (made : ∀ module libraries packages disk context, good module →
      (∀ linked ∈ libraries, good linked.library) →
        ModuleContext.make platform module libraries packages disk = .ok context → fine context)
    (kept : ∀ state, inv state → ∀ file context, fine context → inv (BuildState.moduleShelf.replace
      (Numbered.advance state) (state.contexts.modules.insert (workspace.key .module platform.arch file)
        { serial := Numbered.nextSerial state, value := context })))
    (depth : Nat) (file : SourcePath) :
    Keeps inv (workspace.moduleContextWithin platform depth file) fun context => fine context.value := by
  induction depth generalizing file with
  | zero => exact .throw _
  | succ depth ih =>
    refine .request (fun state before context found => known state before file context found) ?_
      fun state before context holds => kept state before file context holds
    refine (modules file).bind fun module holds => ?_
    refine (links module holds).bind fun libraries linkedHold => ?_
    refine (Keeps.mapM fun library _ => keeps_linkContext (ih library.value.file)).bind
      fun linked same => ?_
    refine packages.bind fun packages _ => ?_
    refine Keeps.get.bind fun state _ => ?_
    refine (Keeps.ofChecked _).mono fun context ok => made module linked _ _ context holds ?_ ok
    intro one member
    obtain ⟨library, found, rfl, -⟩ := exists_of_mem_forall₂ same member
    exact linkedHold _ found

end

section

variable {inv : BuildState → Prop} {workspace : Workspace} {platform : PlatformContext}
  (resolves : ∀ {α : Type} (step : Resolve α), Keeps inv (Build.resolving step) fun _ => True)
include resolves

theorem keeps_platformContext_of_resolves (arch : String)
    (numbered : ∀ state, inv state → inv (Numbered.advance state))
    (kept : ∀ state, inv state →
      state.contexts.platforms.get? (workspace.key .platform arch workspace.config.platform) = none →
        ∀ context, inv (BuildState.platformShelf.keep
          (workspace.key .platform arch workspace.config.platform) context state).2) :
    Keeps inv (workspace.platformContext arch) fun _ => True := by
  have platform : Keeps inv (workspace.platform arch) fun _ => True := by
    refine (resolves _).bind fun shared _ => ?_
    split
    · exact .pure trivial
    · exact .modifyGet fun state before => ⟨numbered state before, trivial⟩
  refine .requestNew (fun _ _ _ _ => trivial)
    (platform.bind fun _ _ => (Keeps.ofChecked _).mono fun _ _ => trivial) ?_
  exact fun state before absent context _ => kept state before absent context

theorem keeps_moduleContextWithin_of_resolves (fine : ModuleContext → Prop)
    (packages : ∀ state, inv state → ∀ packages,
      inv (BuildState.packageShelf.replace (Numbered.advance state) packages))
    (known : ∀ state, inv state → ∀ file context,
      state.contexts.modules.get? (workspace.key .module platform.arch file) = some context →
        fine context.value)
    (made : ∀ module libraries packages disk context,
      ModuleContext.make platform module libraries packages disk = .ok context → fine context)
    (kept : ∀ state, inv state → ∀ file context, fine context → inv (BuildState.moduleShelf.replace
      (Numbered.advance state) (state.contexts.modules.insert (workspace.key .module platform.arch file)
        { serial := Numbered.nextSerial state, value := context })))
    (depth : Nat) (file : SourcePath) :
    Keeps inv (workspace.moduleContextWithin platform depth file) fun context => fine context.value := by
  have modules : ∀ file, Keeps inv (workspace.module file platform.arch) fun _ => True :=
    fun _ => resolves _
  have links : ∀ module, True → Keeps inv (workspace.linked platform.data module) fun libraries =>
      ∀ library ∈ libraries, True :=
    fun _ _ => (resolves _).mono fun _ _ _ _ => trivial
  exact keeps_moduleContextWithin_of modules links fine (keeps_platformPackages_of modules links packages)
    known (fun module libraries packages disk context _ _ => made module libraries packages disk context)
    kept depth file

end

end UefiBuild.Workspace
