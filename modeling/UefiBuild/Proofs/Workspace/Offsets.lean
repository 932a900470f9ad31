import UefiBuild.Proofs.Pcd.Collection
import UefiBuild.Proofs.Vpd.OffsetMap
import UefiBuild.Proofs.Workspace.Contexts

namespace UefiBuild

open BuildStep (Keeps)

namespace Pcd

theorem offsets_mapFirstSku (pcd : Pcd) (change : SkuValue → SkuValue) :
    (pcd.mapFirstSku change).offsets =
      match pcd.skus.values with
      | [] => []
      | sku :: others => (change sku).vpdOffset :: others.map SkuValue.vpdOffset := by
  unfold mapFirstSku
  split
  · rename_i none
    simp [offsets, Table.values, none]
  · rename_i name sku others entries
    simp [offsets, Table.values, Table.insert, entries, putEntry]

@[simp] theorem id_mapFirstSku (pcd : Pcd) (change : SkuValue → SkuValue) :
    (pcd.mapFirstSku change).id = pcd.id := by
  unfold mapFirstSku
  split <;> rfl

theorem length_offsets_mapFirstSku (pcd : Pcd) (change : SkuValue → SkuValue) :
    (pcd.mapFirstSku change).offsets.length = pcd.offsets.length := by
  rw [offsets_mapFirstSku, offsets]
  split <;> simp [*]

end Pcd

def PcdLayout.OpenOnly (layout : PcdLayout) (allowed : PcdId → Prop) : Prop :=
  ∀ item ∈ layout.dynamic, OffsetFile.auto ∈ item.pcd.offsets → allowed item.pcd.id

namespace OffsetStage

theorem placeValue_eq_ok {platform : Platform} {pcd placed : Pcd}
    (ok : placeValue platform pcd = .ok placed) :
    placed.id = pcd.id ∧ placed.offsets.length = pcd.offsets.length := by
  unfold placeValue at ok
  dsimp only at ok
  split at ok
  · obtain rfl := Except.ok.inj ok
    exact ⟨Pcd.id_mapFirstSku _ _, Pcd.length_offsets_mapFirstSku _ _⟩
  · split at ok
    · obtain rfl := Except.ok.inj ok
      refine ⟨(Pcd.id_mapFirstSku _ _).trans (Pcd.id_mapFirstSku _ _), ?_⟩
      exact (Pcd.length_offsets_mapFirstSku _ _).trans (Pcd.length_offsets_mapFirstSku _ _)
    · cases ok

theorem eq_firstOffset {pcd : Pcd} (single : pcd.offsets.length ≤ 1) {offset : String}
    (member : offset ∈ pcd.offsets) : offset = firstOffset pcd := by
  unfold firstOffset Pcd.firstSku?
  unfold Pcd.offsets at single member
  generalize pcd.skus.values = values at single member ⊢
  rcases values with _ | ⟨sku, _ | ⟨other, others⟩⟩
  · simp at member
  · simpa using member
  · simp at single

/-- Where the staging stands after some items of the platform. Each of them that leaves its offset open
has asked for the map. -/
structure Staged (allowed : PcdId → Prop) (done : List PcdId) (stage : OffsetStage) : Prop where
  nodup : (stage.layout.ids true).Nodup
  asks : ∀ item ∈ stage.layout.dynamic, item.pcd.AsksIf (allowed item.pcd.id)
  settled : stage.needsMap = false → ∀ item ∈ stage.layout.dynamic, item.pcd.id ∈ done →
    OffsetFile.auto ∉ item.pcd.offsets
  counted : stage.needsMap = true → stage.file.count ≠ 0
  unassigned : stage.file.assigned = ∅

variable {allowed : PcdId → Prop} {done : List PcdId} {state next : OffsetStage}

theorem count_add (file : OffsetFile) (pcd : Pcd) (offset : String) :
    (file.add pcd offset).count ≠ 0 := by
  have known : pcd.id ∈ (file.add pcd offset).requests.keys := by
    rw [Table.mem_keys, OffsetFile.add, Table.get?_update, if_pos rfl]
    rfl
  intro none
  rw [Table.keys, List.length_eq_zero_iff.1 none] at known
  cases known

theorem Staged.stage (staged : Staged allowed done state) (pcd : Pcd) (offset : String) :
    Staged allowed done (state.stage pcd offset) where
  nodup := staged.nodup
  asks := staged.asks
  settled noMap := staged.settled (by simpa using (Bool.or_eq_false_iff.1 noMap).1)
  counted _ := count_add state.file pcd offset
  unassigned := staged.unassigned

theorem ids_setPcd (layout : PcdLayout) (pcd : Pcd) : (setPcd layout pcd).ids true = layout.ids true := by
  simp only [PcdLayout.ids, ite_true, setPcd, List.map_map]
  refine List.map_congr_left fun item _ => ?_
  dsimp only [Function.comp_apply]
  split
  · rename_i same
    exact same.symm
  · rfl

theorem mem_dynamic_setPcd {layout : PcdLayout} {pcd : Pcd} {item : DynamicPcd}
    (member : item ∈ (setPcd layout pcd).dynamic) :
    item.pcd = pcd ∨ item ∈ layout.dynamic ∧ item.pcd.id ≠ pcd.id := by
  obtain ⟨old, known, rfl⟩ := List.mem_map.1 member
  split
  · exact .inl rfl
  · rename_i other
    exact .inr ⟨known, other⟩

theorem find?_eq_some {layout : PcdLayout} (nodup : (layout.ids true).Nodup) {item : DynamicPcd}
    (member : item ∈ layout.dynamic) :
    layout.dynamic.find? (fun other => other.pcd.id = item.pcd.id) = some item :=
  PcdLayout.find?_of_nodup_map nodup member

theorem Staged.pass {id : PcdId} (staged : Staged allowed done state)
    (none : (state.layout.dynamic.find? fun item => item.pcd.id = id).filter
      (fun item => item.pcd.firstSku?.isSome) = none) : Staged allowed (done ++ [id]) state where
  nodup := staged.nodup
  asks := staged.asks
  settled noMap item member known := by
    rcases List.mem_append.1 known with old | new
    · exact staged.settled noMap item member old
    · rw [← List.mem_singleton.1 new, find?_eq_some staged.nodup member] at none
      have empty : item.pcd.skus.values = [] := by
        simpa [Option.filter_some, Pcd.firstSku?] using none
      simp [Pcd.offsets, empty]
  counted := staged.counted
  unassigned := staged.unassigned

theorem Staged.place {pcd : Pcd} (staged : Staged allowed done state) (single : pcd.offsets.length ≤ 1)
    (may : allowed pcd.id) : Staged allowed (done ++ [pcd.id])
      ({ state with layout := setPcd state.layout pcd }.stage pcd (firstOffset pcd)) where
  nodup := (ids_setPcd state.layout pcd).symm ▸ staged.nodup
  asks item member := by
    rcases mem_dynamic_setPcd member with rfl | ⟨old, _⟩
    · exact ⟨single, fun _ => may⟩
    · exact staged.asks item old
  settled noMap item member known := by
    obtain ⟨quiet, settled⟩ := Bool.or_eq_false_iff.1 noMap
    rcases mem_dynamic_setPcd member with rfl | ⟨old, differs⟩
    · exact fun auto => absurd (eq_firstOffset single auto).symm (by simpa using settled)
    · rcases List.mem_append.1 known with earlier | now
      · exact staged.settled quiet item old earlier
      · exact absurd (List.mem_singleton.1 now) differs
  counted _ := count_add _ _ _
  unassigned := staged.unassigned

theorem stageUsed_staged {platform : Platform} {id : PcdId} (staged : Staged allowed done state)
    (may : allowed id) (ok : stageUsed platform state id = .ok next) :
    Staged allowed (done ++ [id]) next := by
  unfold stageUsed at ok
  split at ok
  · rename_i none
    obtain rfl := Checked.pure_eq_ok.1 ok
    exact staged.pass none
  · rename_i item found
    obtain ⟨pcd, placed, ok⟩ := Checked.bind_eq_ok.1 ok
    obtain ⟨found, -⟩ := Option.filter_eq_some_iff.1 found
    have named : item.pcd.id = id := by simpa using List.find?_some found
    have single := (staged.asks item (List.mem_of_find?_eq_some found)).single
    obtain ⟨sameId, sameLength⟩ := placeValue_eq_ok placed
    obtain rfl : pcd.id = id := sameId.trans named
    dsimp only at ok
    split at ok
    · cases ok
    · obtain rfl := Checked.pure_eq_ok.1 ok
      exact staged.place (sameLength ▸ single) may

theorem keeps_stageUnused {workspace : Workspace} {platform : Platform} {packages : List Package}
    (id : PcdId) (staged : Staged allowed done state) :
    Keeps workspace.Sound (stageUnused platform packages state id) (Staged allowed done) := by
  unfold stageUnused
  dsimp only
  split
  · exact .pure staged
  · split
    · exact .pure staged
    · refine (Keeps.forM fun _ _ => Workspace.keeps_resolving (Catalog.keeps_warn _)).bind fun _ _ => ?_
      exact .pure (staged.stage _ _)

end OffsetStage

namespace Workspace

open OffsetStage (Staged flashIds)

variable {workspace : Workspace}

theorem keeps_changeDisk {ε : Type} {change : Disk → Except ε Disk} {failure : ε → Failure} :
    Keeps workspace.Sound (changeDisk change failure) fun _ => True :=
  keeps_changeDisk_of fun _ _ sound => ⟨sound.catalog, sound.platforms, sound.modules⟩

theorem keeps_readOffsets {inv : BuildState → Prop} {file : OffsetFile} {layout : PcdLayout}
    {map : HostPath} (concrete : file.Concrete) (decided : ∀ state, inv state →
      OffsetFile.DecidedAt state.disk map) :
    Keeps inv (readOffsets file layout map) fun placed => placed.OpenOnly fun _ => False := by
  unfold readOffsets
  refine Keeps.get.bind fun state before => ?_
  dsimp only
  split
  · exact .throw _
  · refine (Keeps.ofChecked _).bind fun _ _ => ?_
    have given := concrete.readFrom (decided state before)
    have each : ∀ item ∈ layout.dynamic, Keeps inv (do
        let pcd ← .ofChecked (OffsetStage.assignOffsets (file.readFrom state.disk map).1
          (.ofText map.text) item.pcd)
        return { item with pcd }) fun item : DynamicPcd => OffsetFile.auto ∉ item.pcd.offsets :=
      fun item _ => (Keeps.ofChecked _).bind fun pcd ok =>
        .pure (OffsetStage.auto_not_mem_assignOffsets given ok)
    refine (Keeps.mapM each).bind fun dynamic placed => .pure fun item member => ?_
    obtain ⟨_, _, settled⟩ := exists_of_mem_forall₂ placed member
    exact settled

theorem run_runTool (tool : OffsetTool) (path : String) (input : HostPath) (state : BuildState) :
    (runTool tool path input).run.run state =
      let (result, disk) := tool.run path input state.disk
      (result, { state with disk, toolCalls := state.toolCalls ++ [(path, input)] }) := rfl

theorem keeps_runTool_readOffsets {tool : OffsetTool} (concrete : tool.IsConcrete) {path base : String}
    {file : OffsetFile} {layout : PcdLayout} (unassigned : file.assigned = ∅) :
    Keeps workspace.Sound (do
      runTool tool path ⟨base ++ ".txt"⟩
      readOffsets file layout ⟨base ++ ".map"⟩) fun placed => placed.OpenOnly fun _ => False := by
  -- What the map says is a fact about the state that the tool leaves, not about what the call returns.
  intro state sound
  have start : file.Concrete := by
    intro id offsets found
    simp [unassigned] at found
  rcases ran : tool.run path ⟨base ++ ".txt"⟩ state.disk with ⟨result, after⟩
  let next : BuildState := { state with
    disk := after, toolCalls := state.toolCalls ++ [(path, ⟨base ++ ".txt"⟩)] }
  have kept : workspace.Sound next := ⟨sound.catalog, sound.platforms, sound.modules⟩
  rw [BuildStep.run_bind, run_runTool, ran]
  cases result with
  | error failure => exact ⟨kept, fun _ done => by cases done⟩
  | ok _ =>
    have decided : ∀ state, workspace.Sound state ∧ state.disk = after →
        OffsetFile.DecidedAt state.disk ⟨base ++ ".map"⟩ := by
      rintro state ⟨-, rfl⟩
      exact concrete path base _ _ ran
    obtain ⟨⟨sound, -⟩, placed⟩ := keeps_readOffsets start decided next ⟨kept, rfl⟩
    exact ⟨sound, placed⟩

theorem keeps_runTool {tool : OffsetTool} {path : String} {input : HostPath} :
    Keeps workspace.Sound (runTool tool path input) fun _ => True := by
  intro state sound
  rw [run_runTool]
  exact ⟨⟨sound.catalog, sound.platforms, sound.modules⟩, fun _ _ => trivial⟩

theorem keeps_fixOffsets {tool : OffsetTool} (concrete : tool.IsConcrete) {platform : PlatformContext}
    {stage : OffsetStage} {allowed : PcdId → Prop} (unassigned : stage.file.assigned = ∅)
    (settled : stage.needsMap = false → stage.layout.OpenOnly allowed) :
    Keeps workspace.Sound (fixOffsets platform tool stage) (·.OpenOnly allowed) := by
  unfold fixOffsets
  dsimp only
  split
  · exact .throw _
  · refine keeps_changeDisk.bind fun _ _ => ?_
    refine (Keeps.require _ _).bind fun guid _ => ?_
    refine keeps_changeDisk.bind fun _ _ => ?_
    refine (Keeps.ofChecked _).bind fun path _ => ?_
    obtain ⟨base, input, map⟩ := HostPath.join_append (platform.buildFolder.join "FV") guid
    change Keeps workspace.Sound (do
      runTool tool path ((platform.buildFolder.join "FV").join (guid ++ ".txt"))
      if stage.needsMap then
        readOffsets stage.file stage.layout ((platform.buildFolder.join "FV").join (guid ++ ".map"))
      else return stage.layout) (·.OpenOnly allowed)
    rw [input, map]
    cases needed : stage.needsMap with
    | false => exact keeps_runTool.bind fun _ _ => .pure (settled needed)
    | true =>
      refine (keeps_runTool_readOffsets concrete unassigned).mono fun placed none item member auto => ?_
      exact (none item member auto).elim

/-- Only an item that the platform does not keep in flash can still have its offset open. -/
theorem keeps_stageOffsets {tool : OffsetTool} (concrete : tool.IsConcrete) {allowed : PcdId → Prop}
    {platform : PlatformContext} {layout : PcdLayout} (nodup : (layout.ids true).Nodup)
    (asks : ∀ item ∈ layout.dynamic, item.pcd.AsksIf (allowed item.pcd.id))
    (may : ∀ id ∈ flashIds platform.data, allowed id) :
    Keeps workspace.Sound (workspace.stageOffsets platform tool layout)
      (·.OpenOnly fun id => allowed id ∧ id ∉ flashIds platform.data) := by
  unfold stageOffsets
  dsimp only
  refine (Keeps.ofChecked _).bind fun used ok => ?_
  have start : Staged allowed [] { layout } := ⟨nodup, asks, by simp, nofun, rfl⟩
  have used : Staged allowed (flashIds platform.data) used := by
    have all := Checked.foldlM_prefix ok start fun done id member state next staged ok =>
      OffsetStage.stageUsed_staged staged (may id member) ok
    simpa using all
  have finish : ∀ staged, Staged allowed (flashIds platform.data) staged → Keeps workspace.Sound
      (if staged.file.count = 0 then return staged.layout else fixOffsets platform tool staged)
      (·.OpenOnly fun id => allowed id ∧ id ∉ flashIds platform.data) := by
    intro staged holds
    have remaining : staged.needsMap = false →
        staged.layout.OpenOnly fun id => allowed id ∧ id ∉ flashIds platform.data :=
      fun noMap item member auto =>
        ⟨(holds.asks item member).asks auto, fun kept => holds.settled noMap item member kept auto⟩
    split
    · rename_i none
      exact .pure (remaining (Bool.eq_false_iff.2 fun needed => holds.counted needed none))
    · exact keeps_fixOffsets concrete holds.unassigned remaining
  split
  · refine (keeps_packageList platform.arch).bind fun packages _ => ?_
    refine Keeps.bind ?_ finish
    exact .foldlM used fun state id _ staged => OffsetStage.keeps_stageUnused id staged
  · rw [pure_bind]
    exact finish _ used

end Workspace

end UefiBuild
