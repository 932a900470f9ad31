import UefiBuild.Context.Module
import UefiBuild.Proofs.Catalog.Module
import UefiBuild.Proofs.Pcd.Derived
import UefiBuild.Workspace.Offsets

namespace UefiBuild

open List (Forall₂)

namespace Pcd

def offsets (pcd : Pcd) : List String := pcd.skus.values.map SkuValue.vpdOffset

/-- An item has one offset at most, and leaves it open only if it may. -/
structure AsksIf (allowed : Prop) (pcd : Pcd) : Prop where
  single : pcd.offsets.length ≤ 1
  asks : OffsetFile.auto ∈ pcd.offsets → allowed

theorem offsets_of_skus_eq {item pcd : Pcd} (same : pcd.skus = item.skus) :
    pcd.offsets = item.offsets := by
  rw [offsets, same, offsets]

theorem offsets_withSkus {item : Pcd} {skus : Table String SkuValue}
    (same : Forall₂ SameButGuid item.skus.entries skus.entries) :
    (item.withSkus skus).offsets = item.offsets := by
  simp only [offsets, Table.values, withSkus]
  generalize item.skus.entries = old, skus.entries = new at same ⊢
  induction same with
  | nil => rfl
  | cons here _ ih => simp only [List.map_cons, here.vpdOffset_eq, ih]

namespace AsksIf

variable {allowed other : Prop} {item pcd : Pcd}

theorem mono (asks : item.AsksIf allowed) (weaker : allowed → other) : item.AsksIf other :=
  ⟨asks.single, fun auto => weaker (asks.asks auto)⟩

theorem of_offsets_eq (asks : item.AsksIf allowed) (same : pcd.offsets = item.offsets) :
    pcd.AsksIf allowed := ⟨same ▸ asks.single, same ▸ asks.asks⟩

theorem of_empty (none : item.skus = ∅) : item.AsksIf allowed := by
  have empty : item.offsets = [] := by
    rw [offsets, none]
    rfl
  exact ⟨by simp [empty], by simp [empty]⟩

theorem of_single {name : String} {sku : SkuValue} (one : item.skus = Table.empty.insert name sku)
    (asks : sku.vpdOffset = OffsetFile.auto → allowed) : item.AsksIf allowed := by
  have only : item.offsets = [sku.vpdOffset] := by
    rw [offsets, one]
    rfl
  exact ⟨by simp [only], fun auto => asks (by simpa [only, eq_comm] using auto)⟩

theorem completed (asks : item.AsksIf allowed) (platform : Platform) :
    (item.completed platform).AsksIf allowed := by
  unfold Pcd.completed completeSkus
  split
  · exact of_single rfl fun auto => absurd auto (by simp [OffsetFile.auto])
  · exact asks.of_offsets_eq (offsets_of_skus_eq (skus_completeSize item))

theorem settled (asks : item.AsksIf allowed) {setting? : Option Pcd}
    (given : ∀ setting ∈ setting?, setting.AsksIf allowed) : (item.settled setting?).AsksIf allowed := by
  have skus := skus_settled item setting?
  cases giver : setting?.filter hasSkus with
  | none =>
    rw [giver, Option.elim_none] at skus
    exact asks.of_offsets_eq (offsets_of_skus_eq skus)
  | some setting =>
    rw [giver, Option.elim_some] at skus
    have found := (Option.filter_eq_some_iff.1 giver).1
    exact (given setting found).of_offsets_eq (offsets_of_skus_eq skus)

end AsksIf

end Pcd

theorem mem_flashIds {platform : Platform} {id : PcdId} :
    id ∈ OffsetStage.flashIds platform ↔ ∃ pcd, platform.pcds.get? id = some pcd ∧ pcd.isVpd := by
  simp [OffsetStage.flashIds, Table.mem_entries]

namespace Platform

/-- Only the items that are kept in flash have an offset to leave open, and no module changes that. -/
structure WellSet (platform : Platform) : Prop where
  settings : ∀ id pcd, platform.pcds.get? id = some pcd → pcd.AsksIf pcd.isVpd
  own : ∀ module id pcd, platform.ownSetting? module id = some pcd → pcd.skus = ∅

variable {platform : Platform} {module : SourcePath} {packages : List Package}

theorem Settles.asksIf {id : PcdId} {item pcd : Pcd}
    (settles : platform.Settles module packages id item pcd) (wellSet : platform.WellSet)
    (plain : item.IsPlain id) : pcd.AsksIf (pcd.id ∈ OffsetStage.flashIds platform) := by
  obtain ⟨skus, same, rfl⟩ := settles.eq
  have general : (item.settled (platform.pcds.get? id)).AsksIf (id ∈ OffsetStage.flashIds platform) :=
    (Pcd.AsksIf.of_empty plain.skus_eq).settled fun setting found =>
      (wellSet.settings id setting found).mono fun vpd => mem_flashIds.2 ⟨setting, found, vpd⟩
  have resolved := (general.completed platform).of_offsets_eq (Pcd.offsets_withSkus same)
  have own := resolved.settled fun setting found => .of_empty (wellSet.own module id setting found)
  refine (own.completed platform).mono fun kept => ?_
  simpa [Pcd.withSkus, plain.id_eq] using kept

theorem asksIf_of_mem_applySettings {pcds : Table PcdId Pcd} {result : List Pcd}
    (ok : platform.applySettings module pcds packages = .ok result) (wellSet : platform.WellSet)
    (plain : ∀ entry ∈ pcds.entries, entry.2.IsPlain entry.1) :
    ∀ pcd ∈ result, pcd.AsksIf (pcd.id ∈ OffsetStage.flashIds platform) := by
  intro pcd member
  obtain ⟨entry, found, settles⟩ := exists_of_mem_forall₂ (applySettings_settles ok) member
  exact settles.asksIf wellSet (plain entry found)

end Platform

namespace ModuleContext

variable {platform : PlatformContext} {shared : Shared Module} {libraries : List LinkedLibrary}
  {packages : List Package} {disk : Disk} {context : ModuleContext}

theorem applied_of_make (ok : make platform shared libraries packages disk = .ok context) :
    platform.data.applySettings shared.value.file shared.value.pcds packages = .ok context.modulePcds ∧
      platform.data.applySettings shared.value.file
        (libraryOnly shared.value (libraries.map fun linked => linked.library.value)) packages =
          .ok context.libraryPcds := by
  unfold make at ok
  obtain ⟨modulePcds, own, ok⟩ := Checked.bind_eq_ok.1 ok
  obtain ⟨libraryPcds, others, ok⟩ := Checked.bind_eq_ok.1 ok
  obtain ⟨options, -, ok⟩ := Checked.bind_eq_ok.1 ok
  obtain rfl := Checked.pure_eq_ok.1 ok
  exact ⟨own, others⟩

theorem isPlain_libraryOnly (module : Module) {libraries : List Module}
    (plain : ∀ library ∈ libraries, library.IsPlain) :
    ∀ entry ∈ (libraryOnly module libraries).entries, entry.2.IsPlain entry.1 := by
  let allPlain (pcds : Table PcdId Pcd) : Prop := ∀ entry ∈ pcds.entries, entry.2.IsPlain entry.1
  have empty : allPlain ∅ := fun _ member => nomatch member
  refine List.foldlRecOn libraries _ empty fun known knownPlain library listed => ?_
  refine List.foldlRecOn library.pcds.entries _ knownPlain fun known knownPlain entry member => ?_
  dsimp only
  split
  · exact knownPlain
  · intro other found
    rcases mem_putEntry found with rfl | old
    · exact plain library listed entry member
    · exact knownPlain other old

theorem asksIf_of_make (ok : make platform shared libraries packages disk = .ok context)
    (wellSet : platform.data.WellSet) (plain : shared.value.IsPlain)
    (linked : ∀ linked ∈ libraries, linked.library.value.IsPlain) :
    ∀ pcd ∈ context.pcds, pcd.AsksIf (pcd.id ∈ OffsetStage.flashIds platform.data) := by
  obtain ⟨own, others⟩ := applied_of_make ok
  intro pcd member
  rcases List.mem_append.1 member with used | linkedOnly
  · exact Platform.asksIf_of_mem_applySettings own wellSet plain pcd used
  · refine Platform.asksIf_of_mem_applySettings others wellSet (isPlain_libraryOnly _ ?_) pcd linkedOnly
    simpa using linked

end ModuleContext

end UefiBuild
