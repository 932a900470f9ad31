import UefiBuild.Proofs.Pcd.Fields

namespace UefiBuild.Pcd

variable {platform : Platform} {item setting pcd : Pcd} {setting? : Option Pcd} {module : SourcePath}

theorem mergedAccess?_again {access? : Option Access} {later : Pcd}
    (agreed : item.mergedAccess? setting = some access?) (merged : later.access? = access?)
    (pending : later.pending = item.pending) : later.mergedAccess? setting = some access? := by
  subst merged
  unfold mergedAccess? at agreed ⊢
  rw [pending]
  cases theirs? : setting.access? with
  | none => rfl
  | some theirs =>
    rw [theirs?] at agreed
    cases mine? : item.access? with
    | none =>
      rw [mine?] at agreed
      obtain new : some theirs = later.access? := Option.some.inj agreed
      simp [← new]
    | some mine =>
      simp only [mine?] at agreed
      split at agreed
      · obtain new : some theirs = later.access? := Option.some.inj agreed
        simp [← new]
      · rename_i decided
        split at agreed
        · rename_i flavour
          -- The item keeps its own access, or has been narrowed to the one of the setting.
          by_cases general : mine = .dynamicEx
          · obtain new : some theirs = later.access? := by simpa [general] using agreed
            simp [← new]
          · obtain kept : some mine = later.access? := by simpa [general] using agreed
            simp [← kept, decided, flavour, general]
        · cases agreed

structure Carries (item setting : Pcd) : Prop where
  maxSize? : (setting.maxSize?.filter (· ≠ "")).or item.maxSize? = item.maxSize?
  value : setting.value = "" ∨ item.value = setting.value
  token : setting.token = "" ∨ item.token = setting.token
  datumType? : setting.datumType?.or item.datumType? = item.datumType?
  skus : setting.skus.isEmpty ∨ item.skus = setting.skus

theorem carries_mergeFields (item setting : Pcd) : (item.mergeFields setting).Carries setting where
  maxSize? := by
    unfold mergeFields
    cases setting.maxSize?.filter (· ≠ "") <;> rfl
  value := by
    unfold mergeFields
    by_cases empty : setting.value = "" <;> simp [empty]
  token := by
    unfold mergeFields
    by_cases empty : setting.token = "" <;> simp [empty]
  datumType? := by
    unfold mergeFields
    cases setting.datumType? <;> rfl
  skus := by
    unfold mergeFields
    cases empty : setting.skus.isEmpty <;> simp

namespace Carries

variable (carries : item.Carries setting)
include carries

theorem mergeFields_eq : item.mergeFields setting = item := by
  have value : (if setting.value = "" then item.value else setting.value) = item.value := by
    split
    · rfl
    · rename_i given
      exact (carries.value.resolve_left given).symm
  have token : (if setting.token = "" then item.token else setting.token) = item.token := by
    split
    · rfl
    · rename_i given
      exact (carries.token.resolve_left given).symm
  have skus : (if setting.skus.isEmpty then item.skus else setting.skus) = item.skus := by
    split
    · rfl
    · rename_i given
      exact (carries.skus.resolve_left given).symm
  rw [mergeFields, carries.maxSize?, carries.datumType?, value, token, skus]

theorem completed (platform : Platform) : (item.completed platform).Carries setting where
  value := by simpa using carries.value
  token := by simpa using carries.token
  datumType? := by simpa using carries.datumType?
  maxSize? := by
    cases given : setting.maxSize?.filter (· ≠ "") with
    | none => rfl
    | some size =>
      have own := carries.maxSize?
      rw [given, Option.some_or] at own
      have sized : ¬ item.isUnsized := by
        rw [isUnsized, ← own]
        simpa using (Option.filter_eq_some_iff.1 given).2
      rw [maxSize?_completed, completeSize_of_sized fun _ => sized, ← own]
      rfl
  skus := by
    cases empty : setting.skus.isEmpty with
    | true => exact .inl rfl
    | false =>
      have own := carries.skus.resolve_left (by simp [empty])
      have filled : item.hasSkus := by simp [hasSkus, own, empty]
      exact .inr ((skus_completed_of_hasSkus platform filled).trans own)

end Carries

theorem checkValue_completed (platform : Platform) (item : Pcd) :
    (item.completed platform).checkValue platform = item.checkValue platform := by
  simp [checkValue, fullName]

theorem override_none (platform : Platform) (item : Pcd) (module : SourcePath) :
    item.override platform none module = .ok (item.completed platform) := rfl

theorem override_of_carries (carries : item.Carries setting)
    (agreed : item.mergedAccess? setting = some item.access?)
    (checked : item.checkValue platform = .ok ()) (module : SourcePath) :
    item.override platform (some setting) module = .ok (item.completed platform) := by
  have merged : item.merge platform setting module = .ok item := by
    have same : { item with access? := item.access? }.mergeFields setting = item := carries.mergeFields_eq
    simp only [merge, agreed, same, checked]
  rw [override, Option.elim_some, merged]
  rfl

/-- The result of a setting has all that the setting gives, so the same setting leaves it as it is. -/
theorem override_repeated (ok : item.override platform setting? module = .ok pcd) :
    pcd.override platform setting? module = .ok pcd := by
  obtain rfl := override_eq_ok ok
  generalize settled : item.settled setting? = merged
  have unchanged : (merged.completed platform).completed platform = merged.completed platform :=
    (complete_completed platform merged).completed_eq platform
  cases setting? with
  | none => rw [override_none, unchanged]
  | some setting =>
    obtain ⟨agreed, checked⟩ := override_some_eq_ok ok
    obtain ⟨access?, agreed⟩ := Option.isSome_iff_exists.1 agreed
    rw [settled] at checked
    have carries : merged.Carries setting := settled ▸ carries_mergeFields _ setting
    have access : (merged.completed platform).access? = access? := by
      simp [← settled, Pcd.settled, agreed, mergeFields]
    have pending : (merged.completed platform).pending = item.pending := by
      simp [← settled, Pcd.settled, mergeFields]
    have stays := mergedAccess?_again agreed access pending
    rw [← access] at stays
    have valid := (checkValue_completed platform merged).trans checked
    rw [override_of_carries (carries.completed platform) stays valid, unchanged]

def openName : Pcd where
  id := ⟨"Name", "Space"⟩
  access? := some .dynamicEx
  datumType? := some .blob

def storedName : Pcd := { id := openName.id, access? := some .dynamicExHii, value := "L\"ab\"" }

theorem override_repeated_openName :
    ∃ pcd, openName.override Platform.silent (some storedName) (.ofText "App.inf") = .ok pcd ∧
      pcd.maxSize? = some "10" ∧ pcd.skus.keys = ["DEFAULT"] ∧ pcd.access? = some .dynamicExHii ∧
      pcd.override Platform.silent (some storedName) (.ofText "App.inf") = .ok pcd := by
  have first : openName.override Platform.silent (some storedName) (.ofText "App.inf") = .ok _ := rfl
  exact ⟨_, first, by decide +kernel, rfl, rfl, override_repeated first⟩

end UefiBuild.Pcd
