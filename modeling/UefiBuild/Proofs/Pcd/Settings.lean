import UefiBuild.Override
import UefiBuild.Proofs.Checked

namespace UefiBuild

open List (Forall₂)

namespace Pcd

def withSkus (item : Pcd) (skus : Table String SkuValue) : Pcd := { item with skus }

section Completed

variable (platform : Platform) (item : Pcd)

@[simp] theorem id_completeSize : item.completeSize.id = item.id := by
  unfold completeSize; split <;> rfl

@[simp] theorem access?_completeSize : item.completeSize.access? = item.access? := by
  unfold completeSize; split <;> rfl

@[simp] theorem datumType?_completeSize : item.completeSize.datumType? = item.datumType? := by
  unfold completeSize; split <;> rfl

@[simp] theorem value_completeSize : item.completeSize.value = item.value := by
  unfold completeSize; split <;> rfl

@[simp] theorem skus_completeSize : item.completeSize.skus = item.skus := by
  unfold completeSize; split <;> rfl

@[simp] theorem token_completeSize : item.completeSize.token = item.token := by
  unfold completeSize; split <;> rfl

@[simp] theorem pending_completeSize : item.completeSize.pending = item.pending := by
  unfold completeSize; split <;> rfl

@[simp] theorem isDynamic_completeSize : item.completeSize.isDynamic = item.isDynamic := by
  rw [isDynamic, isDynamic, access?_completeSize]

@[simp] theorem id_completeSkus : (item.completeSkus platform).id = item.id := by
  unfold completeSkus; split <;> rfl

@[simp] theorem access?_completeSkus : (item.completeSkus platform).access? = item.access? := by
  unfold completeSkus; split <;> rfl

@[simp] theorem datumType?_completeSkus :
    (item.completeSkus platform).datumType? = item.datumType? := by
  unfold completeSkus; split <;> rfl

@[simp] theorem value_completeSkus : (item.completeSkus platform).value = item.value := by
  unfold completeSkus; split <;> rfl

@[simp] theorem token_completeSkus : (item.completeSkus platform).token = item.token := by
  unfold completeSkus; split <;> rfl

@[simp] theorem pending_completeSkus : (item.completeSkus platform).pending = item.pending := by
  unfold completeSkus; split <;> rfl

@[simp] theorem maxSize?_completeSkus : (item.completeSkus platform).maxSize? = item.maxSize? := by
  unfold completeSkus; split <;> rfl

@[simp] theorem isDynamic_completeSkus : (item.completeSkus platform).isDynamic = item.isDynamic := by
  rw [isDynamic, isDynamic, access?_completeSkus]

end Completed

def derivedSizeText (value : String) : String := toString (Blob.derivedSize value).toNat

theorem derivedSizeText_ne_empty (value : String) : derivedSizeText value ≠ "" := Nat.repr_ne_empty

def isUnsized (pcd : Pcd) : Prop := pcd.maxSize?.getD "" = ""

theorem maxSize?_completeSize_of_unsized {item : Pcd} (blob : item.datumType? = some .blob)
    (unsized : item.isUnsized) : item.completeSize.maxSize? = some (derivedSizeText item.value) := by
  rw [completeSize, if_pos ⟨blob, unsized⟩]
  rfl

theorem completeSize_of_sized {item : Pcd} (sized : item.datumType? = some .blob → ¬ item.isUnsized) :
    item.completeSize = item := if_neg fun ⟨blob, unsized⟩ => sized blob unsized

theorem sized_completeSize {item : Pcd} (blob : item.datumType? = some .blob) :
    ¬ item.completeSize.isUnsized := by
  by_cases unsized : item.isUnsized
  · rw [isUnsized, maxSize?_completeSize_of_unsized blob unsized]
    exact derivedSizeText_ne_empty item.value
  · rwa [completeSize_of_sized fun _ => unsized]

theorem completeSkus_of_filled {platform : Platform} {item : Pcd}
    (filled : item.isDynamic → item.skus.isEmpty = false) : item.completeSkus platform = item :=
  if_neg fun ⟨dynamic, empty⟩ => by simp [filled dynamic] at empty

theorem filled_completeSkus (platform : Platform) {item : Pcd} (dynamic : item.isDynamic) :
    (item.completeSkus platform).skus.isEmpty = false := by
  cases empty : item.skus.isEmpty with
  | true =>
    rw [completeSkus, if_pos ⟨dynamic, empty⟩]
    rfl
  | false => rwa [completeSkus_of_filled fun _ => empty]

def completed (platform : Platform) (item : Pcd) : Pcd := item.completeSize.completeSkus platform

section

variable (platform : Platform) (item : Pcd)

@[simp] theorem id_completed : (item.completed platform).id = item.id := by simp [completed]

@[simp] theorem access?_completed : (item.completed platform).access? = item.access? := by
  simp [completed]

@[simp] theorem datumType?_completed : (item.completed platform).datumType? = item.datumType? := by
  simp [completed]

@[simp] theorem value_completed : (item.completed platform).value = item.value := by simp [completed]

@[simp] theorem token_completed : (item.completed platform).token = item.token := by simp [completed]

@[simp] theorem pending_completed : (item.completed platform).pending = item.pending := by
  simp [completed]

@[simp] theorem isDynamic_completed : (item.completed platform).isDynamic = item.isDynamic := by
  simp [completed]

theorem maxSize?_completed : (item.completed platform).maxSize? = item.completeSize.maxSize? :=
  maxSize?_completeSkus platform _

end

structure Complete (item : Pcd) : Prop where
  sized : item.datumType? = some .blob → ¬ item.isUnsized
  filled : item.isDynamic → item.skus.isEmpty = false

theorem Complete.completed_eq {item : Pcd} (complete : item.Complete) (platform : Platform) :
    item.completed platform = item := by
  rw [completed, completeSize_of_sized complete.sized, completeSkus_of_filled complete.filled]

theorem complete_completed (platform : Platform) (item : Pcd) : (item.completed platform).Complete where
  sized := by
    intro blob
    rw [isUnsized, maxSize?_completed]
    exact sized_completeSize (by simpa using blob)
  filled := by
    intro dynamic
    exact filled_completeSkus platform (by simpa using dynamic)

/-- What a setting does to an item before anything is completed. -/
def settled (item : Pcd) (setting? : Option Pcd) : Pcd :=
  setting?.elim item fun setting =>
    { item with access? := (item.mergedAccess? setting).join }.mergeFields setting

@[simp] theorem id_settled (item : Pcd) (setting? : Option Pcd) :
    (item.settled setting?).id = item.id := by cases setting? <;> rfl

theorem merge_eq_ok {platform : Platform} {item setting merged : Pcd} {module : SourcePath}
    (ok : item.merge platform setting module = .ok merged) :
    (item.mergedAccess? setting).isSome ∧ merged = item.settled (some setting) ∧
      merged.checkValue platform = .ok () := by
  unfold merge at ok
  split at ok
  · cases ok
  · rename_i access? agreed
    dsimp only at ok
    split at ok
    · cases ok
    · rename_i checked
      obtain rfl := Except.ok.inj ok
      refine ⟨by simp [agreed], ?_, checked⟩
      rw [settled, Option.elim_some, agreed]
      rfl

theorem override_eq_ok {platform : Platform} {item pcd : Pcd} {setting? : Option Pcd}
    {module : SourcePath} (ok : item.override platform setting? module = .ok pcd) :
    pcd = (item.settled setting?).completed platform := by
  unfold override at ok
  obtain ⟨merged, found, done⟩ := Checked.bind_eq_ok.1 ok
  obtain rfl := Checked.pure_eq_ok.1 done
  cases setting? with
  | none =>
    obtain rfl := Except.ok.inj found
    rfl
  | some setting =>
    obtain ⟨-, rfl, -⟩ := merge_eq_ok found
    rfl

theorem override_some_eq_ok {platform : Platform} {item setting pcd : Pcd} {module : SourcePath}
    (ok : item.override platform (some setting) module = .ok pcd) :
    (item.mergedAccess? setting).isSome ∧ (item.settled (some setting)).checkValue platform = .ok () := by
  obtain ⟨merged, found, -⟩ := Checked.bind_eq_ok.1 ok
  obtain ⟨agreed, rfl, checked⟩ := merge_eq_ok found
  exact ⟨agreed, checked⟩

theorem check_of_override {platform : Platform} {item setting pcd : Pcd} {module : SourcePath}
    (ok : item.override platform (some setting) module = .ok pcd) {type : DatumType}
    (typed : pcd.datumType? = some type) : type.check pcd.value = .ok () := by
  obtain ⟨-, checked⟩ := override_some_eq_ok ok
  obtain rfl := override_eq_ok ok
  rw [datumType?_completed] at typed
  rw [checkValue, typed] at checked
  rw [value_completed]
  exact Checked.mapError_eq_ok.1 checked

theorem maxSize?_settled_of_unsized {item : Pcd} {setting? : Option Pcd}
    (unsized : ∀ setting ∈ setting?, setting.isUnsized) :
    (item.settled setting?).maxSize? = item.maxSize? := by
  cases setting? with
  | none => rfl
  | some setting =>
    have silent : setting.maxSize?.filter (· ≠ "") = none := by
      have blank := unsized setting rfl
      cases size : setting.maxSize? with
      | none => rfl
      | some text => simpa [isUnsized, size] using blank
    simp only [settled, Option.elim_some, mergeFields, silent, Option.none_or]

end Pcd

def SameButGuid (entry other : String × SkuValue) : Prop :=
  other.1 = entry.1 ∧ { other.2 with variableGuidValue := entry.2.variableGuidValue } = entry.2

theorem SameButGuid.value_eq {entry other : String × SkuValue} (same : SameButGuid entry other) :
    other.2.value = entry.2.value := (congrArg SkuValue.value same.2 :)

theorem SameButGuid.vpdOffset_eq {entry other : String × SkuValue} (same : SameButGuid entry other) :
    other.2.vpdOffset = entry.2.vpdOffset := (congrArg SkuValue.vpdOffset same.2 :)

section Resolved

variable {item : Pcd} {skus : Table String SkuValue}
  (same : Forall₂ SameButGuid item.skus.entries skus.entries)
include same

theorem isEmpty_of_sameButGuid : skus.isEmpty = item.skus.isEmpty := by
  unfold Table.isEmpty
  generalize item.skus.entries = old, skus.entries = new at same ⊢
  cases same <;> rfl

theorem Pcd.firstSkuValue_withSkus : (item.withSkus skus).firstSkuValue = item.firstSkuValue := by
  simp only [Pcd.firstSkuValue, Pcd.firstSku?, Table.values, Pcd.withSkus]
  generalize item.skus.entries = old, skus.entries = new at same ⊢
  cases same with
  | nil => rfl
  | cons first _ => exact first.value_eq

theorem Pcd.Complete.withSkus (complete : item.Complete) : (item.withSkus skus).Complete where
  sized := complete.sized
  filled dynamic := (isEmpty_of_sameButGuid same).trans (complete.filled dynamic)

end Resolved

namespace Platform

variable {platform : Platform} {packages : List Package} {module : SourcePath}

theorem resolveSku_eq_ok {id : PcdId} {sku resolved : SkuValue}
    (ok : platform.resolveSku packages module id sku = .ok resolved) :
    { resolved with variableGuidValue := sku.variableGuidValue } = sku := by
  unfold resolveSku at ok
  split at ok
  · obtain rfl := Except.ok.inj ok
    rfl
  · split at ok
    · obtain rfl := Except.ok.inj ok
      rfl
    · cases ok

theorem resolveSkus_eq_ok {id : PcdId} {item resolved : Pcd}
    (ok : platform.resolveSkus packages module id item = .ok resolved) :
    ∃ skus : Table String SkuValue,
      resolved = item.withSkus skus ∧ Forall₂ SameButGuid item.skus.entries skus.entries := by
  obtain ⟨entries, found, done⟩ := Checked.bind_eq_ok.1 ok
  obtain rfl := Checked.pure_eq_ok.1 done
  have pairs : Forall₂ SameButGuid item.skus.entries entries := by
    refine (Checked.mapM_eq_ok.1 found).imp fun entry other step => ?_
    obtain ⟨sku, resolvedSku, done⟩ := Checked.bind_eq_ok.1 step
    obtain rfl := Checked.pure_eq_ok.1 done
    exact ⟨rfl, resolveSku_eq_ok resolvedSku⟩
  have keys := map_fst_eq_of_forall₂ pairs
  exact ⟨.ofList entries, rfl, by rwa [Table.entries_ofList (keys ▸ item.skus.nodup_keys)]⟩

def ownSetting? (platform : Platform) (module : SourcePath) (id : PcdId) : Option Pcd :=
  (platform.components.get? module).bind (·.pcds.get? id)

/-- An item gets the setting of the platform, and after it the one for the module if there is any. -/
def Settles (platform : Platform) (module : SourcePath) (packages : List Package) (id : PcdId)
    (item pcd : Pcd) : Prop :=
  ∃ general, platform.applySetting module packages id item = .ok general ∧
    (platform.ownSetting? module id).elim (pcd = general) fun setting =>
      platform.override module general (some setting) = .ok pcd

theorem get?_ownSettings {own : List (PcdId × Pcd)} (distinctIds : (own.map Prod.fst).Nodup)
    {start last : Table PcdId Pcd}
    (ok : own.foldlM (fun items (id, setting) =>
      match items.get? id with
      | none => Except.ok items
      | some item => do return items.insert id (← platform.override module item (some setting)))
      start = .ok last) :
    last.keys = start.keys ∧ ∀ id item, start.get? id = some item →
      ∃ pcd, last.get? id = some pcd ∧ (own.lookup id).elim (pcd = item) fun setting =>
        platform.override module item (some setting) = .ok pcd := by
  induction own generalizing start with
  | nil =>
    obtain rfl := Checked.pure_eq_ok.1 ok
    exact ⟨rfl, fun id item found => ⟨item, found, rfl⟩⟩
  | cons entry rest ih =>
    obtain ⟨first, setting⟩ := entry
    -- Each name comes once, so the settings that follow leave a changed item as it is.
    obtain ⟨absent, others⟩ := List.nodup_cons.1 distinctIds
    rw [List.foldlM_cons] at ok
    obtain ⟨next, step, run⟩ := Checked.bind_eq_ok.1 ok
    obtain ⟨sameKeys, later⟩ := ih others run
    dsimp only at step
    split at step
    · rename_i unused
      obtain rfl := Except.ok.inj step
      refine ⟨sameKeys, fun id item found => ?_⟩
      have other : id ≠ first := by
        rintro rfl
        simp [unused] at found
      rw [lookup_entry, if_neg other]
      exact later id item found
    · rename_i old present
      obtain ⟨changed, overridden, done⟩ := Checked.bind_eq_ok.1 step
      obtain rfl := Checked.pure_eq_ok.1 done
      have known : first ∈ start.keys := Table.mem_keys.2 (by simp [present])
      refine ⟨by rw [sameKeys, Table.keys_insert, addNew, if_pos known], fun id item found => ?_⟩
      rw [lookup_entry]
      by_cases same : id = first
      · subst same
        obtain rfl := Option.some.inj (present.symm.trans found)
        obtain ⟨pcd, final, unchanged⟩ := later id changed (by rw [Table.get?_insert, if_pos rfl])
        rw [lookup_eq_none absent, Option.elim_none] at unchanged
        exact ⟨pcd, final, by simpa [unchanged] using overridden⟩
      · rw [if_neg same]
        exact later id item (by rw [Table.get?_insert, if_neg same, found])

theorem applySettings_settles {pcds : Table PcdId Pcd} {result : List Pcd}
    (ok : platform.applySettings module pcds packages = .ok result) :
    Forall₂ (fun entry pcd => platform.Settles module packages entry.1 entry.2 pcd) pcds.entries
      result := by
  obtain ⟨items, general, rest⟩ := Checked.bind_eq_ok.1 ok
  obtain ⟨last, own, done⟩ := Checked.bind_eq_ok.1 rest
  obtain rfl := Checked.pure_eq_ok.1 done
  have pairs : Forall₂ (fun entry item => item.1 = entry.1 ∧
      platform.applySetting module packages entry.1 entry.2 = .ok item.2) pcds.entries items := by
    refine (Checked.mapM_eq_ok.1 general).imp fun entry item step => ?_
    obtain ⟨settled, found, done⟩ := Checked.bind_eq_ok.1 step
    obtain rfl := Checked.pure_eq_ok.1 done
    exact ⟨rfl, found⟩
  have entries : (Table.ofList items).entries = items :=
    Table.entries_ofList (map_fst_eq_of_forall₂ pairs ▸ pcds.nodup_keys)
  have ownIds : (((platform.components.get? module).elim [] (·.pcds.entries)).map Prod.fst).Nodup := by
    cases platform.components.get? module with
    | none => simp
    | some component => exact component.pcds.nodup_keys
  have ownLookup : ∀ id, ((platform.components.get? module).elim [] (·.pcds.entries)).lookup id =
      platform.ownSetting? module id := by
    intro id
    unfold ownSetting?
    cases platform.components.get? module <;> rfl
  obtain ⟨sameKeys, changes⟩ := get?_ownSettings ownIds own
  have changed := Table.forall₂_entries sameKeys fun id item pcd here there => by
    obtain ⟨final, found, change⟩ := changes id item here
    obtain rfl := Option.some.inj (found.symm.trans there)
    exact ownLookup id ▸ change
  rw [entries] at changed
  rw [Table.values, List.forall₂_map_right_iff]
  refine forall₂_trans (fun entry item final here there => ?_) pairs changed
  exact ⟨item.2, here.2, here.1 ▸ there⟩

theorem Settles.steps {id : PcdId} {item pcd : Pcd}
    (settles : platform.Settles module packages id item pcd) :
    ∃ (general : Pcd) (skus : Table String SkuValue),
      item.override platform (platform.pcds.get? id) module = .ok general ∧
      Forall₂ SameButGuid general.skus.entries skus.entries ∧
      (platform.ownSetting? module id).elim (pcd = general.withSkus skus) fun setting =>
        (general.withSkus skus).override platform (some setting) module = .ok pcd := by
  obtain ⟨resolved, settled, own⟩ := settles
  obtain ⟨general, overridden, skusResolved⟩ := Checked.bind_eq_ok.1 settled
  obtain ⟨skus, rfl, same⟩ := resolveSkus_eq_ok skusResolved
  refine ⟨general, skus, Checked.mapError_eq_ok.1 overridden, same, ?_⟩
  cases setting : platform.ownSetting? module id with
  | none => rwa [setting] at own
  | some _ =>
    rw [setting] at own
    exact Checked.mapError_eq_ok.1 own

/-- An item is completed once under the platform's setting, and again under its own one. -/
theorem Settles.eq {id : PcdId} {item pcd : Pcd} (settles : platform.Settles module packages id item pcd) :
    ∃ skus : Table String SkuValue,
      let general := (item.settled (platform.pcds.get? id)).completed platform
      Forall₂ SameButGuid general.skus.entries skus.entries ∧
        pcd = ((general.withSkus skus).settled (platform.ownSetting? module id)).completed platform := by
  obtain ⟨general, skus, overridden, same, own⟩ := settles.steps
  obtain rfl := Pcd.override_eq_ok overridden
  refine ⟨skus, same, ?_⟩
  cases setting : platform.ownSetting? module id with
  | some _ =>
    rw [setting, Option.elim_some] at own
    exact Pcd.override_eq_ok own
  | none =>
    rw [setting, Option.elim_none] at own
    -- Nothing is completed a second time here, but that would change nothing.
    have complete := (Pcd.complete_completed platform (item.settled (platform.pcds.get? id))).withSkus same
    rw [own]
    exact (complete.completed_eq platform).symm

theorem Settles.complete {id : PcdId} {item pcd : Pcd}
    (settles : platform.Settles module packages id item pcd) : pcd.Complete := by
  obtain ⟨skus, -, rfl⟩ := settles.eq
  exact Pcd.complete_completed platform _

theorem Settles.check {id : PcdId} {item pcd : Pcd}
    (settles : platform.Settles module packages id item pcd)
    (given : (platform.pcds.get? id).isSome ∨ (platform.ownSetting? module id).isSome)
    {type : DatumType} (typed : pcd.datumType? = some type) : type.check pcd.value = .ok () := by
  obtain ⟨general, skus, overridden, -, own⟩ := settles.steps
  cases setting : platform.ownSetting? module id with
  | some _ =>
    rw [setting, Option.elim_some] at own
    exact Pcd.check_of_override own typed
  | none =>
    rw [setting, Option.elim_none] at own
    subst own
    obtain ⟨_, setting⟩ := Option.isSome_iff_exists.1 (given.resolve_right (by simp [setting]))
    rw [setting] at overridden
    exact Pcd.check_of_override overridden typed

end Platform

end UefiBuild
