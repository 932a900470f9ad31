import UefiBuild.Proofs.Pcd.Numbering
import UefiBuild.Proofs.Pcd.Uses
import UefiBuild.Proofs.Text.Words

namespace UefiBuild.PcdLayout

variable {pcd : Pcd}

theorem part_eq_wideText_iff : part pcd = .wideText ↔ pcd.datumType? = some .blob ∧
    ∃ sku rest, pcd.firstSku? = some sku ∧ sku.value.toList = 'L' :: rest := by
  have marked (value : String) : Text.startsWith "L" value = true ↔ ∃ rest, value.toList = 'L' :: rest := by
    rw [Text.startsWith, Text.isSome_dropStart?_iff]
    exact exists_congr fun rest => eq_comm
  have wide : part pcd = .wideText ↔
      pcd.datumType? = some .blob ∧ pcd.firstSku?.any (Text.startsWith "L" ·.value) := by
    unfold part
    dsimp only
    split
    · exact iff_of_true rfl ‹_›
    · refine iff_of_false ?_ ‹_›
      split <;> nofun
  rw [wide, Option.any_eq_true]
  simp only [marked, exists_and_left]

theorem part_eq_variable_iff : part pcd = .variable ↔
    part pcd ≠ .wideText ∧ ∃ sku, pcd.firstSku? = some sku ∧ sku.variableName ≠ "" := by
  have named : pcd.firstSku?.any (·.variableName ≠ "") = true ↔
      ∃ sku, pcd.firstSku? = some sku ∧ sku.variableName ≠ "" := by
    simp only [Option.any_eq_true, decide_eq_true_eq]
  rw [← named]
  unfold part
  dsimp only
  split
  · simp
  · split <;> simp_all

def dynamicItems (uses : List ModuleUse) : List DynamicPcd :=
  (distinct (((usedPcds uses).filter (·.isDynamic = true)).map Pcd.id)).filterMap fun id =>
    (deciding? (usesOf (history uses) true id)).map placed

theorem dynamic_collectAll (uses : List ModuleUse) :
    (collectAll uses).dynamic = dynamicItems uses := by
  let items := (collectAll uses).dynamic
  have nodup : (items.map (·.pcd.id)).Nodup := nodup_ids_gathered uses false true
  have order : items.map (·.pcd.id) = distinct _ := ids_collectAll uses true
  have found : ∀ item ∈ items, items.find? (·.pcd.id = item.pcd.id) = some item :=
    fun item member => find?_of_nodup_map nodup member
  calc
    items = items.filterMap some := List.filterMap_some.symm
    _ = items.filterMap fun item => items.find? (·.pcd.id = item.pcd.id) :=
      List.filterMap_congr fun item member => (found item member).symm
    _ = (items.map (·.pcd.id)).filterMap fun id => items.find? (·.pcd.id = id) := by
      rw [List.filterMap_map]
      rfl
    _ = dynamicItems uses := by
      rw [order, dynamicItems]
      exact List.filterMap_congr fun id _ => (holds_collectAll uses).dynamic id

theorem filter_part_ordered (layout : PcdLayout) (wanted : Part) :
    layout.ordered.dynamic.filter (part ·.pcd = wanted) =
      layout.dynamic.filter (part ·.pcd = wanted) := by
  have each (kept : Part) : (layout.dynamic.filter (part ·.pcd = kept)).filter (part ·.pcd = wanted) =
      if kept = wanted then layout.dynamic.filter (part ·.pcd = wanted) else [] := by
    rw [List.filter_filter]
    split
    · rename_i same
      simp [same]
    · rename_i differs
      refine List.filter_eq_nil_iff.2 fun item _ both => differs ?_
      rw [Bool.and_eq_true, decide_eq_true_eq, decide_eq_true_eq] at both
      exact both.2.symm.trans both.1
  rw [ordered]
  simp only [List.filter_append, each]
  cases wanted <;> simp

theorem ordered_ordered (layout : PcdLayout) : layout.ordered.ordered = layout.ordered := by
  rw [ordered]
  simp only [filter_part_ordered]
  rfl

/-- Where no item is used both as a dynamic one and as one that is not, the numbers of a layout that is
in order run through the PEI database, the DXE database and the other items; each database begins with
its wide texts, and its variables go before the rest. -/
theorem tokenNumbers_follow_layout (uses : List ModuleUse)
    (separate : ∀ pcd ∈ usedPcds uses, ∀ other ∈ usedPcds uses,
      pcd.id = other.id → pcd.isDynamic = other.isDynamic) :
    let layout := (collectAll uses).ordered
    let block (phase : Phase) (wanted : Part) : List PcdId :=
      ((dynamicItems uses).filter fun item => item.phase = phase ∧ part item.pcd = wanted).map (·.pcd.id)
    let database (phase : Phase) : List PcdId :=
      block phase .wideText ++ block phase .variable ++ block phase .other
    let fixed := distinct (((usedPcds uses).filter (·.isDynamic = false)).map Pcd.id)
    layout.tokenNumbers.entries = (database .pei ++ database .dxe ++ fixed).zipIdx 1 ∧
      (database .pei ++ database .dxe ++ fixed).Perm (distinct ((usedPcds uses).map Pcd.id)) ∧
      layout.ordered = layout := by
  intro layout block database fixed
  have nodup : layout.numbered.Nodup := (nodup_numbered_gathered_iff uses true).2 separate
  have inPhase (phase : Phase) :
      (layout.dynamic.filter (·.phase = phase)).map (·.pcd.id) = database phase := by
    simp [layout, ordered, database, block, dynamic_collectAll, List.filter_filter]
  have others : layout.fixed.map Pcd.id = fixed := ids_collectAll uses false
  have order : layout.numbered = database .pei ++ database .dxe ++ fixed := by
    simp only [numbered, inPhase, others]
  have known := distinct_numbered_gathered uses true
  refine ⟨?_, ?_, ordered_ordered _⟩
  · rw [entries_tokenNumbers nodup, order]
  · rw [← order, ← distinct_of_nodup nodup]
    exact known

def phasedUses : List ModuleUse :=
  let item (name : String) (access : Access) (value variableName : String) : Pcd :=
    { id := ⟨name, "Space"⟩, access? := some access, datumType? := some .blob,
      skus := .ofList [("DEFAULT", { value, variableName })] }
  let plain := item "Plain" .dynamic "\x7b0x1\x7d" ""
  let setup := item "Setup" .dynamicHii "" "L\"Setup\""
  let title := item "Title" .dynamic "L\"abc\"" ""
  let early := item "Early" .dynamic "L\"x\"" ""
  let count := { item "Count" .dynamic "L1" "" with datumType? := some .uint32 }
  let fixed := item "Fixed" .fixedAtBuild "" ""
  [⟨.ofText "Dxe.inf", .dxeDriver, [plain, fixed, count, setup, title]⟩,
    ⟨.ofText "Pei.inf", .peim, [plain, early]⟩]

theorem tokenNumbers_phasedUses :
    (∀ pcd ∈ usedPcds phasedUses, ∀ other ∈ usedPcds phasedUses,
        pcd.id = other.id → pcd.isDynamic = other.isDynamic) ∧
      ((collectAll phasedUses).ordered.tokenNumbers.entries.map fun entry => (entry.1.name, entry.2)) =
        [("Early", 1), ("Plain", 2), ("Title", 3), ("Setup", 4), ("Count", 5), ("Fixed", 6)] := by
  have separate : ∀ pcd ∈ usedPcds phasedUses, ∀ other ∈ usedPcds phasedUses,
      pcd.id = other.id → pcd.isDynamic = other.isDynamic := by decide
  refine ⟨separate, ?_⟩
  rw [(tokenNumbers_follow_layout phasedUses separate).1]
  decide

end UefiBuild.PcdLayout
