import UefiBuild.Proofs.Pcd.Settings

namespace UefiBuild

open List (Forall₂)

namespace Pcd

theorem firstSkuValue_of_skus_eq {item other : Pcd} (same : item.skus = other.skus)
    (filled : item.skus.isEmpty = false) : item.firstSkuValue = other.firstSkuValue := by
  unfold firstSkuValue firstSku? Table.values
  rw [← same]
  cases entries : item.skus.entries with
  | nil => simp [Table.isEmpty, entries] at filled
  | cons => rfl

theorem firstSkuValue_of_isEmpty {item : Pcd} (empty : item.skus.isEmpty) :
    item.firstSkuValue = item.value := by
  unfold firstSkuValue firstSku? Table.values
  rw [List.isEmpty_iff.1 empty]
  rfl

theorem firstSkuValue_completed (platform : Platform) (item : Pcd) :
    (item.completed platform).firstSkuValue = item.firstSkuValue := by
  cases empty : item.skus.isEmpty with
  | false =>
    have kept : (item.completed platform).skus = item.skus := by
      rw [completed, completeSkus_of_filled fun _ => by simpa using empty, skus_completeSize]
    exact firstSkuValue_of_skus_eq kept (by rwa [kept])
  | true =>
    rw [firstSkuValue_of_isEmpty empty, completed, completeSkus]
    split
    · exact value_completeSize item
    · rw [firstSkuValue_of_isEmpty (by rwa [skus_completeSize]), value_completeSize]

def hasSkus (pcd : Pcd) : Bool := !pcd.skus.isEmpty

theorem hasSkus_completed (platform : Platform) (item : Pcd) :
    (item.completed platform).hasSkus = (item.hasSkus || item.isDynamic) := by
  cases dynamic : item.isDynamic with
  | true => simp [hasSkus, (complete_completed platform item).filled (by simpa using dynamic)]
  | false =>
    have kept : (item.completed platform).skus = item.skus := by
      rw [completed, completeSkus_of_filled (by simp [dynamic]), skus_completeSize]
    rw [hasSkus, kept, Bool.or_false, hasSkus]

theorem hasSkus_withSkus {item : Pcd} {skus : Table String SkuValue}
    (same : Forall₂ SameButGuid item.skus.entries skus.entries) :
    (item.withSkus skus).hasSkus = item.hasSkus :=
  congrArg not (isEmpty_of_sameButGuid same)

theorem skus_settled (item : Pcd) (setting? : Option Pcd) :
    (item.settled setting?).skus = ((setting?.filter hasSkus).elim item.skus skus) := by
  cases setting? with
  | none => rfl
  | some setting =>
    rw [Option.filter_some]
    cases empty : setting.skus.isEmpty <;> simp [settled, mergeFields, hasSkus, empty]

theorem hasSkus_settled (item : Pcd) (setting? : Option Pcd) :
    (item.settled setting?).hasSkus = (item.hasSkus || (setting?.filter hasSkus).isSome) := by
  rw [hasSkus, skus_settled]
  cases giver : setting?.filter hasSkus with
  | none => simp [hasSkus]
  | some setting => simpa [hasSkus] using (Option.filter_eq_some_iff.1 giver).2

theorem firstSkuValue_settled (item : Pcd) (setting? : Option Pcd) :
    (item.settled setting?).firstSkuValue =
      (setting?.filter hasSkus).elim
        (if item.hasSkus then item.firstSkuValue else (item.settled setting?).value) firstSkuValue := by
  have skus := skus_settled item setting?
  cases giver : setting?.filter hasSkus with
  | some setting =>
    rw [giver] at skus
    have filled := (Option.filter_eq_some_iff.1 giver).2
    exact firstSkuValue_of_skus_eq skus (by simpa [skus, hasSkus] using filled)
  | none =>
    rw [giver, Option.elim_none] at skus
    cases empty : item.skus.isEmpty with
    | true => simpa [hasSkus, empty] using firstSkuValue_of_isEmpty (skus ▸ empty)
    | false => simpa [hasSkus, empty] using firstSkuValue_of_skus_eq skus (skus ▸ empty)

end Pcd

namespace Platform

variable {platform : Platform} {packages : List Package} {module : SourcePath}

theorem Settles.maxSize? {id : PcdId} {item pcd : Pcd}
    (settles : platform.Settles module packages id item pcd) (blob : pcd.datumType? = some .blob)
    (unsized : item.isUnsized) (generalUnsized : ∀ setting ∈ platform.pcds.get? id, setting.isUnsized)
    (ownUnsized : ∀ setting ∈ platform.ownSetting? module id, setting.isUnsized) :
    let general := item.settled (platform.pcds.get? id)
    pcd.maxSize? = some (Pcd.derivedSizeText
      (if general.datumType? = some .blob then general.value else pcd.value)) := by
  intro general
  obtain ⟨skus, -, rfl⟩ := settles.eq
  have generalOpen : general.isUnsized := by
    rwa [Pcd.isUnsized, Pcd.maxSize?_settled_of_unsized generalUnsized]
  have carried : (((general.completed platform).withSkus skus).settled
      (platform.ownSetting? module id)).maxSize? = general.completeSize.maxSize? :=
    (Pcd.maxSize?_settled_of_unsized ownUnsized).trans (Pcd.maxSize?_completed platform general)
  generalize ((general.completed platform).withSkus skus).settled (platform.ownSetting? module id) =
    last at *
  rw [Pcd.datumType?_completed] at blob
  rw [Pcd.maxSize?_completed, Pcd.value_completed]
  by_cases early : general.datumType? = some .blob
  · rw [Pcd.maxSize?_completeSize_of_unsized early generalOpen] at carried
    rw [if_pos early, Pcd.completeSize_of_sized, carried]
    simp [Pcd.isUnsized, carried, Pcd.derivedSizeText_ne_empty]
  · rw [Pcd.completeSize_of_sized fun blob => absurd blob early] at carried
    rw [if_neg early, Pcd.maxSize?_completeSize_of_unsized blob]
    rwa [Pcd.isUnsized, carried]

/-- The size of a blob to which nobody gives one fits the value it has under the setting of the
platform, if it is a blob by then. A value that the module's own setting puts in its place is not
looked at. -/
theorem derivedSize_applySettings {pcds : Table PcdId Pcd} {result : List Pcd}
    (ok : platform.applySettings module pcds packages = .ok result) :
    Forall₂ (fun entry pcd =>
      let general := entry.2.settled (platform.pcds.get? entry.1)
      pcd.datumType? = some .blob → entry.2.isUnsized →
      (∀ setting ∈ platform.pcds.get? entry.1, setting.isUnsized) →
      (∀ setting ∈ platform.ownSetting? module entry.1, setting.isUnsized) →
        pcd.maxSize? = some (Pcd.derivedSizeText
          (if general.datumType? = some .blob then general.value else pcd.value)) ∧
        (pcd.maxSize? = some (Pcd.derivedSizeText pcd.value) ↔
          (general.datumType? = some .blob →
            Pcd.derivedSizeText general.value = Pcd.derivedSizeText pcd.value)))
      pcds.entries result := by
  refine (applySettings_settles ok).imp fun entry pcd settles => ?_
  intro general blob unsized generalUnsized ownUnsized
  have size := settles.maxSize? blob unsized generalUnsized ownUnsized
  refine ⟨size, ?_⟩
  rw [size, Option.some.injEq]
  by_cases early : general.datumType? = some .blob
  · rw [if_pos early]
    exact ⟨fun same _ => same, fun same => same early⟩
  · rw [if_neg early]
    exact ⟨fun _ blob => absurd blob early, fun _ => rfl⟩

def silent : Platform where
  file := .ofText "P.dsc"
  arch := "X64"
  skuName := "DEFAULT"
  skuIds := .ofList [("DEFAULT", "0")]

def settingOwn (setting : Pcd) : Platform :=
  let app : SourcePath := .ofText "App.inf"
  let component : Component := { file := app, id := 0, pcds := .ofList [(setting.id, setting)] }
  { silent with components := .ofList [(app, component)] }

def settledApp (platform : Platform) (item : Pcd) : Checked (List Pcd) :=
  platform.applySettings (.ofText "App.inf") (.ofList [(item.id, item)]) []

def shortName : Pcd where
  id := ⟨"Name", "Space"⟩
  access? := some .fixedAtBuild
  datumType? := some .blob
  value := "L\"a\""

def lengthening : Platform := settingOwn { id := shortName.id, value := "L\"abc\"" }

theorem derivedSize_shortName :
    ∃ pcd, settledApp lengthening shortName = .ok [pcd] ∧
      pcd.maxSize? = some (Pcd.derivedSizeText shortName.value) := by
  have sizes := derivedSize_applySettings
    (rfl : lengthening.applySettings (.ofText "App.inf") (.ofList [(shortName.id, shortName)]) [] = .ok _)
  cases sizes with
  | cons name _ =>
    refine ⟨_, rfl, (name rfl rfl ?_ ?_).1⟩
    · rintro setting ⟨⟩
    · rintro setting ⟨⟩
      rfl

theorem derivedSize_shortName_stale :
    ∃ pcd, settledApp lengthening shortName = .ok [pcd] ∧
      pcd.datumType? = some .blob ∧ pcd.value = "L\"abc\"" ∧ pcd.maxSize? = some "8" ∧
      Pcd.derivedSizeText pcd.value = "12" :=
  ⟨_, rfl, rfl, rfl, by decide +kernel, by decide +kernel⟩

theorem Settles.firstSkuValue {id : PcdId} {item pcd : Pcd}
    (settles : platform.Settles module packages id item pcd) (plain : item.hasSkus = false) :
    let general := item.settled (platform.pcds.get? id)
    pcd.firstSkuValue =
      (((platform.ownSetting? module id).filter Pcd.hasSkus).or
        ((platform.pcds.get? id).filter Pcd.hasSkus)).elim
          (if general.isDynamic then general.value else pcd.value) Pcd.firstSkuValue := by
  intro general
  obtain ⟨skus, same, rfl⟩ := settles.eq
  have filled : ((general.completed platform).withSkus skus).hasSkus =
      (((platform.pcds.get? id).filter Pcd.hasSkus).isSome || general.isDynamic) := by
    rw [Pcd.hasSkus_withSkus same, Pcd.hasSkus_completed, Pcd.hasSkus_settled, plain, Bool.false_or]
  rw [Pcd.firstSkuValue_completed, Pcd.firstSkuValue_settled, filled, Pcd.firstSkuValue_withSkus same,
    Pcd.firstSkuValue_completed, Pcd.firstSkuValue_settled, plain, Pcd.value_completed]
  cases (platform.ownSetting? module id).filter Pcd.hasSkus with
  | some setting => rfl
  | none =>
    cases (platform.pcds.get? id).filter Pcd.hasSkus with
    | some setting => rfl
    | none => rfl

/-- The first value of an item is that of the last setting with values for stock keeping units. Without
one it is the value under the setting of the platform if the item is dynamic by then; a value that the
module's own setting puts in its place does not reach it. -/
theorem firstSkuValue_applySettings {pcds : Table PcdId Pcd} {result : List Pcd}
    (plain : ∀ item ∈ pcds.values, item.hasSkus = false)
    (ok : platform.applySettings module pcds packages = .ok result) :
    Forall₂ (fun entry pcd =>
      let general := entry.2.settled (platform.pcds.get? entry.1)
      let giver? := ((platform.ownSetting? module entry.1).filter Pcd.hasSkus).or
        ((platform.pcds.get? entry.1).filter Pcd.hasSkus)
      pcd.firstSkuValue =
          giver?.elim (if general.isDynamic then general.value else pcd.value) Pcd.firstSkuValue ∧
        (pcd.firstSkuValue = pcd.value ↔
          giver?.elim (general.isDynamic → general.value = pcd.value) (·.firstSkuValue = pcd.value)))
      pcds.entries result := by
  have settled := (List.forall₂_and_left _ _).2
    ⟨fun entry member => plain entry.2 (List.mem_map_of_mem member), applySettings_settles ok⟩
  refine settled.imp fun entry pcd ⟨plain, settles⟩ => ?_
  intro general giver?
  have first : pcd.firstSkuValue =
      giver?.elim (if general.isDynamic then general.value else pcd.value) Pcd.firstSkuValue :=
    settles.firstSkuValue plain
  refine ⟨first, ?_⟩
  rw [first]
  cases giver? with
  | some setting => exact Iff.rfl
  | none =>
    rw [Option.elim_none, Option.elim_none]
    split <;> simp [*]

def plainMode : Pcd where
  id := ⟨"Mode", "Space"⟩
  access? := some .dynamic
  datumType? := some .uint8
  value := "0x1"

def reflashed : Platform :=
  let skus : Table String SkuValue := .ofList [("DEFAULT", { value := "0x5" })]
  let mode : Pcd := { id := plainMode.id, access? := some .dynamic, value := "0x5", skus }
  { silent with pcds := .ofList [(mode.id, mode)] }.addPcd mode.id "0x7"

theorem firstSkuValue_plainMode :
    plainMode.hasSkus = false ∧ ∃ pcd, settledApp reflashed plainMode = .ok [pcd] ∧
      pcd.firstSkuValue = "0x5" := by
  have plain : ∀ item ∈ (Table.ofList [(plainMode.id, plainMode)]).values, item.hasSkus = false := by
    decide
  have values := firstSkuValue_applySettings plain (rfl : settledApp reflashed plainMode = .ok _)
  cases values with
  | cons mode _ => exact ⟨rfl, _, rfl, mode.1⟩

/-- Neither a setting of the module's own nor a value of the flash layout reaches the value for the
stock keeping unit. -/
theorem firstSkuValue_plainMode_stale :
    (∃ pcd, settledApp (settingOwn { id := plainMode.id, value := "0x9" }) plainMode = .ok [pcd] ∧
      pcd.access? = some .dynamic ∧ pcd.value = "0x9" ∧ pcd.firstSkuValue = "0x1") ∧
    ∃ pcd, settledApp reflashed plainMode = .ok [pcd] ∧
      pcd.access? = some .dynamic ∧ pcd.value = "0x7" ∧ pcd.firstSkuValue = "0x5" :=
  ⟨⟨_, rfl, rfl, rfl, rfl⟩, ⟨_, rfl, rfl, rfl, rfl⟩⟩

end Platform

end UefiBuild
