import UefiBuild.Proofs.Pcd.Placeholder
import UefiBuild.Proofs.Workspace.Steps
import UefiBuild.Workspace.Plan

namespace UefiBuild

open BuildStep (Keeps SameFrom)
open List (Forall₂)

namespace PcdLayout

theorem noteSize_of_complete {pcd : Pcd} (complete : pcd.Complete) (layout : PcdLayout)
    (module : SourcePath) : layout.noteSize module pcd = layout := by
  refine if_neg ?_
  rintro ⟨blob, none⟩
  exact complete.sized blob (by rw [Pcd.isUnsized, none]; rfl)

theorem unsized_place (layout : PcdLayout) (phase : Phase) (pcd : Pcd) :
    (layout.place phase pcd).unsized = layout.unsized := by
  unfold place
  split
  · rfl
  · split <;> rfl

theorem unsized_collect {pcds : List Pcd} (complete : ∀ pcd ∈ pcds, pcd.Complete) (layout : PcdLayout)
    (module : SourcePath) (type : ModuleType) :
    (layout.collect module type pcds).unsized = layout.unsized := by
  induction pcds generalizing layout with
  | nil => rfl
  | cons pcd rest ih =>
    rw [collect, List.foldl_cons, noteSize_of_complete (complete pcd (by simp))]
    exact (ih (fun pcd member => complete pcd (List.mem_cons_of_mem _ member)) _).trans
      (unsized_place layout _ pcd)

end PcdLayout

namespace ModuleContext

def Complete (context : ModuleContext) : Prop := ∀ pcd ∈ context.pcds, pcd.Complete

theorem complete_of_make {platform : PlatformContext} {shared : Shared Module}
    {libraries : List LinkedLibrary} {packages : List Package} {disk : Disk} {context : ModuleContext}
    (ok : make platform shared libraries packages disk = .ok context) : context.Complete := by
  obtain ⟨own, others⟩ := applied_of_make ok
  intro pcd member
  rcases List.mem_append.1 member with used | linkedOnly
  · obtain ⟨_, -, settles⟩ := exists_of_mem_forall₂ (Platform.applySettings_settles own) used
    exact settles.complete
  · obtain ⟨_, -, settles⟩ := exists_of_mem_forall₂ (Platform.applySettings_settles others) linkedOnly
    exact settles.complete

end ModuleContext

namespace BuildState

def Complete (state : BuildState) : Prop :=
  ∀ key context, state.contexts.modules.get? key = some context → context.value.Complete

theorem complete_fresh (disk : Disk) : ({ disk } : BuildState).Complete :=
  fun _ _ found => by simp at found

theorem keeps_resolving {α : Type} (step : Resolve α) :
    Keeps Complete (Build.resolving step) fun _ => True :=
  fun _ complete => ⟨complete, fun _ _ => trivial⟩

end BuildState

namespace Workspace

open BuildState (Complete)

variable {workspace : Workspace} {platform : PlatformContext}

theorem completes_platformContext (arch : String) :
    Keeps Complete (workspace.platformContext arch) fun _ => True := by
  refine keeps_platformContext_of_resolves BuildState.keeps_resolving arch (fun _ => id) ?_
  intro state complete absent context
  rw [BuildStep.keep_of_absent absent]
  exact complete

theorem completes_moduleContextWithin (depth : Nat) (file : SourcePath) :
    Keeps Complete (workspace.moduleContextWithin platform depth file) fun context =>
      context.value.Complete := by
  refine keeps_moduleContextWithin_of_resolves BuildState.keeps_resolving ModuleContext.Complete
    (fun _ complete _ => complete) (fun _ complete _ => complete _)
    (fun _ _ _ _ _ => ModuleContext.complete_of_make) ?_ depth file
  intro state complete file context made key known found
  rw [BuildState.moduleShelf, Table.get?_insert] at found
  split at found
  · obtain rfl := Option.some.inj found
    exact made
  · exact complete key known found

theorem completes_collectModules {layout : PcdLayout} (sized : layout.unsized = []) :
    Keeps Complete (workspace.collectModules platform layout) (·.unsized = []) := by
  refine .foldlM sized fun layout file _ sized => ?_
  refine (completes_moduleContextWithin _ file).bind fun context complete => .pure ?_
  rw [PcdLayout.unsized_collect complete, sized]

/-- Collects the items of one architecture after the other as `collectPlatforms` does, but goes on with
`handle` where it would fail for a blob without a size. -/
def collectHandling (workspace : Workspace) (tool : OffsetTool) (handle : Failure → Build Unit) :
    PcdLayout → List String → Build (List (Shared PlatformContext) × PcdLayout)
  | layout, [] => return ([], layout)
  | layout, arch :: others => do
    let platform ← workspace.platformContext arch
    let layout ← workspace.collectModules platform.value layout
    match layout.check platform.value.file with
    | .ok () => pure ()
    | .error failure => handle failure
    let layout ←
      if others.isEmpty then PcdLayout.ordered <$> workspace.stageOffsets platform.value tool layout
      else pure layout
    let (platforms, layout) ← workspace.collectHandling tool handle layout others
    return (platform :: platforms, layout)

/-- Plans the build as `plan` does, but goes on with `handle` where that fails for a blob without a
size. -/
def planHandling (workspace : Workspace) (tool : OffsetTool) (handle : Failure → Build Unit) :
    Build BuildPlan := do
  let (platforms, layout) ← workspace.collectHandling tool handle {} workspace.config.arches
  workspace.checkTokenValues (platforms.map Shared.value)
  workspace.checkAccess (platforms.map Shared.value)
  return { platforms, layout, tokens := layout.tokenNumbers }

theorem sameFrom_collectHandling (workspace : Workspace) (tool : OffsetTool) (handle : Failure → Build Unit)
    {layout : PcdLayout} (sized : layout.unsized = []) (arches : List String) :
    SameFrom Complete (workspace.collectPlatforms tool layout arches)
      (workspace.collectHandling tool handle layout arches) := by
  induction arches generalizing layout with
  | nil => exact .refl _
  | cons arch others ih =>
    unfold collectPlatforms collectHandling
    refine (completes_platformContext arch).sameFrom_bind fun platform _ => ?_
    refine (completes_collectModules sized).sameFrom_bind fun layout sized => ?_
    have passes : layout.check platform.value.file = .ok () := if_pos sized
    simp only [passes, BuildStep.ofChecked_ok_bind]
    -- With the last architecture the offsets change the layout, but nothing is checked any more.
    cases others with
    | nil => exact .refl _
    | cons next others =>
      simp only [List.isEmpty_cons, Bool.false_eq_true, if_false, pure_bind]
      exact (ih sized).bind_left _

/-- Settings leave no item incomplete, and no value that its type rejects. So nothing is ever done about
a blob without a size, whatever that would be. -/
theorem settings_complete_every_pcd :
    (∀ (platform : Platform) (module : SourcePath) (packages : List Package) (pcds : Table PcdId Pcd)
      (result : List Pcd), platform.applySettings module pcds packages = .ok result →
        Forall₂ (fun entry pcd =>
          (pcd.datumType? = some .blob → pcd.maxSize?.getD "" ≠ "") ∧
            (pcd.isDynamic → pcd.skus.entries ≠ []) ∧
            ((platform.pcds.get? entry.1).isSome ∨ (platform.ownSetting? module entry.1).isSome →
              ∀ type, pcd.datumType? = some type → type.check pcd.value = .ok ()))
          pcds.entries result) ∧
      ∀ (workspace : Workspace) (tool : OffsetTool) (handle : Failure → Build Unit) (disk : Disk),
        (workspace.plan tool).run.run { disk } = (workspace.planHandling tool handle).run.run { disk } := by
  constructor
  · intro platform module packages pcds result ok
    refine (Platform.applySettings_settles ok).imp fun entry pcd settles => ?_
    refine ⟨settles.complete.sized, fun dynamic => ?_, fun given _ typed => settles.check given typed⟩
    have filled := settles.complete.filled dynamic
    rwa [Table.isEmpty, List.isEmpty_eq_false_iff] at filled
  · intro workspace tool handle disk
    have sized : ({} : PcdLayout).unsized = [] := rfl
    have same := sameFrom_collectHandling workspace tool handle sized workspace.config.arches
    exact same.bind_left _ _ (BuildState.complete_fresh disk)

theorem settings_complete_shortName :
    ∃ pcd, Platform.settledApp Platform.lengthening Platform.shortName = .ok [pcd] ∧
      pcd.maxSize?.getD "" ≠ "" ∧ DatumType.blob.check pcd.value = .ok () := by
  have completed := settings_complete_every_pcd.1 Platform.lengthening (.ofText "App.inf") []
    (.ofList [(Platform.shortName.id, Platform.shortName)]) _ rfl
  cases completed with
  | cons name _ => exact ⟨_, rfl, name.1 rfl, name.2.2 (.inr rfl) _ rfl⟩

end Workspace

end UefiBuild
