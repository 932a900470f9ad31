import UefiBuild.Proofs.Workspace.Offsets
import UefiBuild.Workspace.Plan

namespace UefiBuild.Workspace

open BuildStep (Keeps)
open List (Forall₂)
open OffsetStage (flashIds)

/-- A layout whose items leave their offsets open only where the platform keeps them in flash on one of
the architectures. -/
structure Collected (workspace : Workspace) (arches : List String) (layout : PcdLayout) : Prop where
  nodup : (layout.ids true).Nodup
  asks : ∀ item ∈ layout.dynamic,
    item.pcd.AsksIf (∃ arch ∈ arches, workspace.KeepsInFlash arch item.pcd.id)

variable {workspace : Workspace} {arches : List String} {arch : String} {layout : PcdLayout}

theorem Collected.collect (collected : workspace.Collected arches layout) (file : SourcePath)
    (listed : arch ∈ arches) {context : ModuleContext} (asks : workspace.AsksForFlash arch context) :
    workspace.Collected arches (layout.collect file context.data.type context.pcds) where
  nodup := PcdLayout.nodup_ids_collect collected.nodup _ _ _
  asks item member := by
    rcases PcdLayout.mem_dynamic_collect member with old | used
    · exact collected.asks item old
    · exact (asks item.pcd used).mono fun kept => ⟨arch, listed, kept⟩

theorem keeps_collectModules {platform : PlatformContext} (isFor : workspace.IsFor arch platform)
    (listed : arch ∈ arches) (collected : workspace.Collected arches layout) :
    Keeps workspace.Sound (workspace.collectModules platform layout) (workspace.Collected arches) :=
  .foldlM collected fun _ file _ collected =>
    (keeps_moduleContext isFor file).bind fun _ asks => .pure (collected.collect file listed asks)

theorem keeps_collectPlatforms {tool : OffsetTool} (concrete : tool.IsConcrete) {rest : List String}
    (listed : ∀ arch ∈ rest, arch ∈ arches) (collected : workspace.Collected arches layout) :
    Keeps workspace.Sound (workspace.collectPlatforms tool layout rest) fun (platforms, settled) =>
      Forall₂ (fun arch platform => workspace.IsFor arch platform.value) rest platforms ∧
        settled.OpenOnly fun id => (∃ arch ∈ arches, workspace.KeepsInFlash arch id) ∧
          ∀ last ∈ rest.getLast?, ¬ workspace.KeepsInFlash last id := by
  induction rest generalizing layout with
  | nil =>
    exact .pure ⟨.nil, fun item member auto => ⟨(collected.asks item member).asks auto, nofun⟩⟩
  | cons arch others ih =>
    unfold collectPlatforms
    refine (keeps_platformContext arch).bind fun platform isFor => ?_
    refine (keeps_collectModules isFor (listed arch (by simp)) collected).bind fun layout collected => ?_
    refine (Keeps.ofChecked _).bind fun _ _ => ?_
    -- Offsets are settled with the last architecture alone.
    cases others with
    | nil =>
      have may : ∀ id ∈ flashIds platform.value.data, ∃ arch ∈ arches, workspace.KeepsInFlash arch id :=
        fun id kept => ⟨arch, listed arch (by simp), (isFor.describes.mem_flashIds id).1 kept⟩
      have staged : Keeps workspace.Sound
          (PcdLayout.ordered <$> workspace.stageOffsets platform.value tool layout)
          (·.OpenOnly fun id => (∃ arch ∈ arches, workspace.KeepsInFlash arch id) ∧
            id ∉ flashIds platform.value.data) :=
        .map <| (keeps_stageOffsets concrete collected.nodup collected.asks may).mono
          fun settled remaining item member =>
            remaining item ((PcdLayout.dynamic_ordered settled).mem_iff.1 member)
      rw [List.isEmpty_nil, if_pos rfl]
      refine staged.bind fun settled remaining => ?_
      dsimp only
      rw [collectPlatforms, pure_bind]
      refine .pure ⟨.cons isFor .nil, fun item member auto => ?_⟩
      obtain ⟨kept, elsewhere⟩ := remaining item member auto
      refine ⟨kept, fun last final => ?_⟩
      obtain rfl := Option.some.inj final
      exact fun kept => elsewhere ((isFor.describes.mem_flashIds _).2 kept)
    | cons next others =>
      rw [List.isEmpty_cons, if_neg Bool.false_ne_true, pure_bind]
      refine (ih (fun arch member => listed arch (List.mem_cons_of_mem _ member)) collected).bind ?_
      rintro ⟨platforms, settled⟩ ⟨contexts, remaining⟩
      exact .pure ⟨.cons isFor contexts, remaining⟩

theorem keeps_plan {tool : OffsetTool} (concrete : tool.IsConcrete) :
    Keeps workspace.Sound (workspace.plan tool) fun plan =>
      Forall₂ (fun arch platform => workspace.IsFor arch platform.value) workspace.config.arches
          plan.platforms ∧
        plan.layout.OpenOnly fun id => (∃ arch ∈ workspace.config.arches, workspace.KeepsInFlash arch id) ∧
          ∀ last ∈ workspace.config.arches.getLast?, ¬ workspace.KeepsInFlash last id := by
  have empty : workspace.Collected workspace.config.arches {} :=
    ⟨List.nodup_nil, fun _ member => absurd member List.not_mem_nil⟩
  refine (keeps_collectPlatforms concrete (fun _ => id) empty).bind ?_
  rintro ⟨platforms, layout⟩ collected
  refine (keeps_checkTokenValues_of keeps_packageList _).bind fun _ _ => ?_
  have warned : ∀ warning, Keeps workspace.Sound (Build.warn warning) fun _ => True :=
    fun warning => keeps_resolving (Catalog.keeps_warn warning)
  exact (keeps_checkAccess_of warned keeps_packageList _).bind fun _ _ => .pure collected

/-- The offset of an item stays open only where the platform keeps it in flash on some architecture but
not on the last. -/
theorem plan_openOffsets {tool : OffsetTool} (concrete : tool.IsConcrete) {disk : Disk} {plan : BuildPlan}
    {state : BuildState} (ok : (workspace.plan tool).run.run { disk } = (.ok plan, state)) :
    ∀ item ∈ plan.layout.dynamic, OffsetFile.auto ∈ item.pcd.offsets →
      (∃ platform ∈ plan.platforms, item.pcd.id ∈ flashIds platform.value.data) ∧
        ∀ last ∈ plan.platforms.getLast?, item.pcd.id ∉ flashIds last.value.data := by
  obtain ⟨contexts, remaining⟩ := (keeps_plan concrete _ (workspace.sound_fresh disk)).2 plan (by rw [ok])
  intro item member auto
  obtain ⟨⟨arch, listed, kept⟩, elsewhere⟩ := remaining item member auto
  constructor
  · obtain ⟨platform, used, isFor⟩ := exists_of_mem_forall₂ contexts.flip listed
    exact ⟨platform, used, (isFor.describes.mem_flashIds _).2 kept⟩
  · intro last final stored
    obtain ⟨arch, lastArch, isFor⟩ := exists_getLast?_of_forall₂ contexts final
    exact elsewhere arch lastArch ((isFor.describes.mem_flashIds _).1 stored)

/-- A tool that writes each row back, with the first offset where the row asks for one. -/
def firstOffsets : OffsetTool where
  run path input disk :=
    match disk.read input with
    | .error error => (.error (.of (.offsetToolStart path error)), disk)
    | .ok rows =>
      let map : HostPath := ⟨input.withoutExtension.text ++ ".map"⟩
      match disk.write map (.text (Text.replace "|*|" "|0x0|" rows)) with
      | .error error => (.error (.of (.offsetToolStart path error)), disk)
      | .ok after => (.ok (), after)

def splitStore : RecordStore :=
  let row (place : Section) (values : List String) : Section × Record := (place, { values })
  let platform := [
    row .defines ["PLATFORM_NAME", "P"],
    row .defines ["PLATFORM_GUID", "G"],
    row .defines ["FLASH_DEFINITION", "P.fdf"],
    row .defines ["VPD_TOOL_GUID", "8C3D856A-9BE6-468E-850A-24F7A8D38E08"],
    row .components ["App.inf"],
    (.pcds .dynamicVpd, { values := ["S", "Open", "*"], arch := "IA32" })]
  let package := [
    row .defines ["PACKAGE_NAME", "P"],
    row .defines ["PACKAGE_GUID", "G"],
    row .guids ["S", "0"],
    row (.pcds .dynamic) ["S", "Open", "{1}|VOID*|1"]]
  let module := [
    row .defines ["INF_VERSION", "0x00010005"],
    row .defines ["BASE_NAME", "App"],
    row .defines ["MODULE_TYPE", "UEFI_APPLICATION"],
    row .packages ["P.dec"],
    row (.pcds .dynamic) ["S", "Open", ""]]
  { files := .ofList [(.ofText "P.dsc", platform), (.ofText "P.dec", package),
      (.ofText "App.inf", module)] }

def splitWorkspace (arches : List String) : Workspace where
  store := splitStore
  config := {
    workspace := ⟨"ws"⟩
    platform := .ofText "P.dsc"
    target := "DEBUG"
    toolchain := "GCC5"
    arches
    tools := ⟨.ofList [("*_*_*_MAKE_PATH", "make"), ("*_*_*_VPD_PATH", "BPDG"),
      ("*_*_*_VPD_GUID", "8C3D856A-9BE6-468E-850A-24F7A8D38E08")]⟩ }

/-- The plan for the architecture with the item and another one succeeds, and the offset stays open. -/
theorem plan_splitWorkspace :
    ∃ plan state, ((splitWorkspace ["IA32", "X64"]).plan firstOffsets.checked).run.run {} =
        (.ok plan, state) ∧
      ∃ item ∈ plan.layout.dynamic, item.pcd.id = ⟨"Open", "S"⟩ ∧ OffsetFile.auto ∈ item.pcd.offsets := by
  have shown : ((((splitWorkspace ["IA32", "X64"]).plan firstOffsets.checked).run.run {}).1.toOption.map
      fun plan => plan.layout.dynamic.map fun item => (item.pcd.id, item.pcd.offsets)) =
      some [(⟨"Open", "S"⟩, ["*"])] := by decide +kernel
  rcases ran : ((splitWorkspace ["IA32", "X64"]).plan firstOffsets.checked).run.run {} with
    ⟨_ | plan, state⟩
  · rw [ran] at shown
    cases shown
  · rw [ran] at shown
    have only : (plan.layout.dynamic.map fun item => (item.pcd.id, item.pcd.offsets)) =
        [(⟨"Open", "S"⟩, ["*"])] := Option.some.inj shown
    obtain ⟨item, member, same⟩ := List.mem_map.1 (only ▸ List.mem_singleton_self _)
    obtain ⟨named, offsets⟩ := Prod.mk.inj same
    exact ⟨plan, state, rfl, item, member, named, by simp [offsets, OffsetFile.auto]⟩

theorem plan_openOffsets_splitWorkspace :
    ∃ plan state, ((splitWorkspace ["IA32", "X64"]).plan firstOffsets.checked).run.run {} =
        (.ok plan, state) ∧
      (∃ platform ∈ plan.platforms, ⟨"Open", "S"⟩ ∈ flashIds platform.value.data) ∧
        ∀ last ∈ plan.platforms.getLast?, ⟨"Open", "S"⟩ ∉ flashIds last.value.data := by
  obtain ⟨plan, state, ran, item, member, named, auto⟩ := plan_splitWorkspace
  have kept := plan_openOffsets firstOffsets.isConcrete_checked ran item member auto
  exact ⟨plan, state, ran, named ▸ kept⟩

/-- A tool that chooses every offset it is asked for does not keep a plan from leaving one open. -/
theorem plan_leaves_offset_open :
    firstOffsets.checked.IsConcrete ∧
      ∃ plan state, ((splitWorkspace ["IA32", "X64"]).plan firstOffsets.checked).run.run {} =
          (.ok plan, state) ∧
        ∃ item ∈ plan.layout.dynamic, OffsetFile.auto ∈ item.pcd.offsets := by
  obtain ⟨plan, state, ran, item, member, -, auto⟩ := plan_splitWorkspace
  exact ⟨firstOffsets.isConcrete_checked, plan, state, ran, item, member, auto⟩

end UefiBuild.Workspace
