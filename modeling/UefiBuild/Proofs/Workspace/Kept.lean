import UefiBuild.Proofs.Failing
import UefiBuild.Proofs.Workspace.Contexts
import UefiBuild.Workspace.Plan

namespace UefiBuild

open BuildStep (Ends Keeps Reads)

structure ContextCache.Extends (later earlier : ContextCache) : Prop where
  platforms : ∀ {key context}, earlier.platforms.get? key = some context →
    later.platforms.get? key = some context
  modules : ∀ {key}, earlier.modules.contains key → later.modules.contains key

theorem ContextCache.Extends.refl (contexts : ContextCache) : contexts.Extends contexts := ⟨id, id⟩

def BuildState.KeptSince (earlier : ContextCache) (state : BuildState) : Prop :=
  state.contexts.Extends earlier

namespace Workspace

open BuildState (KeptSince)

variable {workspace : Workspace} {earlier : ContextCache}

theorem keepsContexts_resolving {α : Type} (step : Resolve α) :
    Keeps (KeptSince earlier) (Build.resolving step) fun _ => True :=
  fun _ kept => ⟨kept, fun _ _ => trivial⟩

theorem keepsContexts_platformContext (arch : String) :
    Keeps (KeptSince earlier) (workspace.platformContext arch) fun _ => True := by
  refine keeps_platformContext_of_resolves keepsContexts_resolving arch (fun _ => id) ?_
  intro state kept absent context
  rw [BuildStep.keep_of_absent absent]
  exact ⟨fun found => Table.get?_insert_of_absent absent _ (kept.platforms found), kept.modules⟩

theorem keepsContexts_moduleContext (platform : PlatformContext) (file : SourcePath) :
    Keeps (KeptSince earlier) (workspace.moduleContext platform file) fun _ => True := by
  refine keeps_moduleContextWithin_of_resolves keepsContexts_resolving (fun _ => True)
    (fun _ kept _ => ⟨kept.platforms, kept.modules⟩) (fun _ _ _ _ _ => trivial)
    (fun _ _ _ _ _ _ => trivial) ?_ _ file
  intro state kept file context _
  refine ⟨kept.platforms, fun had => ?_⟩
  rw [BuildState.moduleShelf, Table.contains_insert, kept.modules had, Bool.or_true]

theorem keepsContexts_moduleContexts (arch : String) :
    Keeps (KeptSince earlier) (workspace.moduleContexts arch) fun _ => True :=
  (keepsContexts_platformContext arch).bind fun platform _ =>
    (Keeps.mapM fun file _ => keepsContexts_moduleContext platform.value file).mono fun _ _ => trivial

theorem keepsContexts_stageOffsets (platform : PlatformContext) (tool : OffsetTool) (layout : PcdLayout) :
    Keeps (KeptSince earlier) (workspace.stageOffsets platform tool layout) fun _ => True :=
  keeps_stageOffsets_of (fun _ => keepsContexts_resolving _)
    (fun arch => keeps_packageList_of (keepsContexts_moduleContexts arch)) (fun _ _ _ => id) platform tool
    layout

theorem keepsContexts_collectModules (platform : PlatformContext) (layout : PcdLayout) :
    Keeps (KeptSince earlier) (workspace.collectModules platform layout) fun _ => True :=
  .foldlM trivial fun _ file _ _ =>
    (keepsContexts_moduleContext platform file).bind fun _ _ => .pure trivial

theorem keepsContexts_collectPlatforms (tool : OffsetTool) (layout : PcdLayout) (arches : List String) :
    Keeps (KeptSince earlier) (workspace.collectPlatforms tool layout arches) fun _ => True := by
  refine keeps_collectPlatforms_of (fun arch layout => ?_)
    (fun platform => keepsContexts_stageOffsets platform tool) layout arches
  refine (keepsContexts_platformContext arch).bind fun platform _ => ?_
  exact (keepsContexts_collectModules platform.value layout).bind fun _ _ => .pure trivial

structure Made (workspace : Workspace) (platform : Shared PlatformContext) (contexts : ContextCache) :
    Prop where
  kept : contexts.platforms.get? (workspace.key .platform platform.value.arch workspace.config.platform) =
    some platform
  components : ∀ file ∈ platform.value.data.components.keys,
    contexts.modules.contains (workspace.key .module platform.value.arch file)

theorem Made.mono {platform : Shared PlatformContext} {later : ContextCache}
    (made : workspace.Made platform earlier) (grown : later.Extends earlier) :
    workspace.Made platform later :=
  ⟨grown.platforms made.kept, fun file listed => grown.modules (made.components file listed)⟩

theorem ends_moduleContext (platform : PlatformContext) (file : SourcePath) (state : BuildState) :
    Ends (workspace.moduleContext platform file) state fun _ after =>
      after.contexts.modules.contains (workspace.key .module platform.arch file) := by
  have found : Ends (workspace.moduleContext platform file) state fun context after =>
      after.contexts.modules.get? (workspace.key .module platform.arch file) = some context :=
    Ends.request fun _ _ => rfl
  exact found.mono fun context after found => by rw [Table.contains, found]; rfl

theorem ends_collectModules (platform : PlatformContext) (layout : PcdLayout) (state : BuildState) :
    Ends (workspace.collectModules platform layout) state fun _ after =>
      ∀ file ∈ platform.data.components.keys,
        after.contexts.modules.contains (workspace.key .module platform.arch file) := by
  let left (files : List SourcePath) (_ : PcdLayout) (state : BuildState) : Prop :=
    ∀ file ∈ platform.data.components.keys,
      file ∈ files ∨ state.contexts.modules.contains (workspace.key .module platform.arch file)
  have collected : Ends (workspace.collectModules platform layout) state (left []) := by
    refine .foldlM (fun file listed => .inl listed) fun file rest layout before remaining => ?_
    refine Ends.bind (Ends.and (ends_moduleContext platform file before)
      ((keepsContexts_moduleContext platform file).ends (.refl before.contexts))) ?_
    rintro context after ⟨made, grown, -⟩
    refine .pure fun other listed => ?_
    rcases remaining other listed with waiting | had
    · rcases List.mem_cons.1 waiting with rfl | later
      · exact .inr made
      · exact .inl later
    · exact .inr (grown.modules had)
  exact collected.mono fun _ _ all file listed => (all file listed).resolve_left List.not_mem_nil

/-- Collecting the items of the platforms makes the contexts that the checks look at. -/
theorem ends_collectPlatforms {tool : OffsetTool} {layout : PcdLayout} {arches : List String}
    {state : BuildState} (sound : workspace.Sound state) :
    Ends (workspace.collectPlatforms tool layout arches) state fun collected after =>
      ∀ platform ∈ collected.1, workspace.Made platform after.contexts := by
  induction arches generalizing layout state with
  | nil => exact .pure fun platform listed => absurd listed List.not_mem_nil
  | cons arch others ih =>
    unfold collectPlatforms
    have known : Ends (workspace.platformContext arch) state fun platform after =>
        after.contexts.platforms.get? (workspace.key .platform arch workspace.config.platform) =
          some platform :=
      Ends.request fun _ _ => rfl
    refine (known.and ((keeps_platformContext arch).ends sound)).bind ?_
    rintro platform between ⟨kept, sound, isFor⟩
    have sounds : Keeps workspace.Sound (workspace.collectModules platform.value layout) fun _ => True :=
      .foldlM trivial fun _ file _ _ => (keeps_moduleContext isFor file).bind fun _ _ => .pure trivial
    refine ((ends_collectModules platform.value layout between).and ((sounds.ends sound).and
      ((keepsContexts_collectModules platform.value layout).ends (.refl between.contexts)))).bind ?_
    rintro layout collected ⟨components, ⟨sound, -⟩, grown, -⟩
    have made : workspace.Made platform collected.contexts :=
      ⟨by rw [isFor.arch_eq]; exact grown.platforms kept, components⟩
    have checked : Ends (.ofChecked (layout.check platform.value.file)) collected fun _ after =>
        collected = after := .ofChecked fun _ _ => rfl
    refine checked.bind ?_
    rintro _ _ rfl
    cases others with
    | nil =>
      rw [List.isEmpty_nil, if_pos rfl]
      have ordered : Keeps (KeptSince collected.contexts)
          (PcdLayout.ordered <$> workspace.stageOffsets platform.value tool layout) fun _ => True :=
        .map (keepsContexts_stageOffsets platform.value tool layout)
      refine (ordered.ends (.refl collected.contexts)).bind ?_
      rintro layout after ⟨grown, -⟩
      dsimp only
      rw [collectPlatforms, pure_bind]
      refine .pure fun other listed => ?_
      obtain rfl := List.mem_singleton.1 listed
      exact made.mono grown
    | cons next others =>
      rw [List.isEmpty_cons, if_neg Bool.false_ne_true, pure_bind]
      refine ((ih sound).and ((keepsContexts_collectPlatforms tool layout (next :: others)).ends
        (.refl collected.contexts))).bind ?_
      rintro ⟨platforms, settled⟩ after ⟨all, grown, -⟩
      refine .pure fun other listed => ?_
      rcases List.mem_cons.1 listed with rfl | later
      · exact made.mono grown
      · exact all other later

section Made

variable {platform : Shared PlatformContext} {state : BuildState}

theorem Made.reads_moduleContexts (made : workspace.Made platform state.contexts) :
    ∃ contexts, Reads (workspace.moduleContexts platform.value.arch) state (.ok contexts) := by
  have each : ∀ file ∈ platform.value.data.components.keys,
      ∃ context, Reads (workspace.moduleContext platform.value file) state (.ok context) := by
    intro file listed
    obtain ⟨context, found⟩ := Option.isSome_iff_exists.1 (made.components file listed)
    exact ⟨context, .request found _⟩
  obtain ⟨contexts, all⟩ := Reads.exists_mapM each
  exact ⟨contexts, (Reads.request made.kept _).bind_ok all⟩

theorem Made.reads_packageList (made : workspace.Made platform state.contexts) :
    ∃ packages, Reads (workspace.packageList platform.value.arch) state (.ok packages) := by
  obtain ⟨contexts, reads⟩ := made.reads_moduleContexts
  have libraries : Reads (workspace.libraryContexts platform.value.arch) state
      (.ok (distinctLibraries (contexts.map Shared.value))) := reads.bind_ok (.pure _ state)
  exact ⟨_, reads.bind_ok (libraries.bind_ok (.pure _ state))⟩

end Made

end Workspace

end UefiBuild
