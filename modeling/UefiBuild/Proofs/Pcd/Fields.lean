import UefiBuild.Proofs.Pcd.Derived

namespace UefiBuild

open List (Forall₂)

namespace Access

/-- An access that an item can have in the end: its own, or a flavour of it. -/
def Narrows (access final : Access) : Prop := final = access ∨ access = dynamicEx ∧ final.isDynamicEx

theorem Narrows.trans {first second third : Access} (here : first.Narrows second)
    (there : second.Narrows third) : first.Narrows third := by
  rcases here with rfl | ⟨rfl, flavour⟩
  · exact there
  · rcases there with rfl | ⟨-, flavour⟩
    · exact .inr ⟨rfl, flavour⟩
    · exact .inr ⟨rfl, flavour⟩

end Access

namespace Pcd

variable {platform : Platform} {item setting pcd : Pcd} {setting? : Option Pcd} {module : SourcePath}

theorem narrows_of_mergedAccess? {mine : Access} {access? : Option Access}
    (agreed : item.mergedAccess? setting = some access?) (own : item.access? = some mine)
    (chosen : item.pending = false) : ∃ final, access? = some final ∧ mine.Narrows final := by
  unfold mergedAccess? at agreed
  rw [own] at agreed
  cases theirs : setting.access? with
  | none =>
    rw [theirs] at agreed
    exact ⟨mine, (Option.some.inj agreed).symm, .inl rfl⟩
  | some their =>
    simp only [theirs, chosen, Bool.false_eq_true, false_or] at agreed
    split at agreed
    · rename_i same
      exact ⟨their, (Option.some.inj agreed).symm, .inl same.symm⟩
    · split at agreed
      · rename_i flavour
        obtain rfl := Option.some.inj agreed
        refine ⟨_, rfl, ?_⟩
        split
        · rename_i general
          subst general
          exact .inr ⟨rfl, flavour⟩
        · exact .inl rfl
      · cases agreed

theorem narrows_of_override {mine : Access} (ok : item.override platform setting? module = .ok pcd)
    (own : item.access? = some mine) (chosen : item.pending = false) :
    pcd.pending = false ∧ ∃ final, pcd.access? = some final ∧ mine.Narrows final := by
  have kept : (item.settled setting?).pending = item.pending := by cases setting? <;> rfl
  have access : ∃ final, (item.settled setting?).access? = some final ∧ mine.Narrows final := by
    cases setting? with
    | none => exact ⟨mine, own, .inl rfl⟩
    | some setting =>
      obtain ⟨agreed, -⟩ := override_some_eq_ok ok
      obtain ⟨access?, agreed⟩ := Option.isSome_iff_exists.1 agreed
      obtain ⟨final, rfl, narrows⟩ := narrows_of_mergedAccess? agreed own chosen
      exact ⟨final, by simp [settled, mergeFields, agreed], narrows⟩
  obtain rfl := override_eq_ok ok
  exact ⟨by simpa [kept] using chosen, by simpa using access⟩

def givenText (field : Pcd → String) (setting? : Option Pcd) (otherwise : String) : String :=
  ((setting?.map field).filter (· ≠ "")).getD otherwise

theorem givenText_some (field : Pcd → String) (setting : Pcd) (otherwise : String) :
    givenText field (some setting) otherwise =
      if field setting = "" then otherwise else field setting := by
  rw [givenText, Option.map_some, Option.filter_some]
  by_cases empty : field setting = "" <;> simp [empty]

theorem value_settled (item : Pcd) (setting? : Option Pcd) :
    (item.settled setting?).value = givenText value setting? item.value := by
  cases setting? with
  | none => rfl
  | some setting => rw [givenText_some]; rfl

theorem token_settled (item : Pcd) (setting? : Option Pcd) :
    (item.settled setting?).token = givenText token setting? item.token := by
  cases setting? with
  | none => rfl
  | some setting => rw [givenText_some]; rfl

theorem datumType?_settled (item : Pcd) (setting? : Option Pcd) :
    (item.settled setting?).datumType? = (setting?.bind datumType?).or item.datumType? := by
  cases setting? <;> rfl

theorem skus_completed_of_hasSkus (platform : Platform) (filled : item.hasSkus) :
    (item.completed platform).skus = item.skus := by
  have full : item.completeSize.skus.isEmpty = false := by simpa [hasSkus] using filled
  rw [completed, completeSkus_of_filled fun _ => full, skus_completeSize]

theorem skus_settled_of_giver (item : Pcd) {giver : Pcd} (given : setting?.filter hasSkus = some giver) :
    (item.settled setting?).hasSkus ∧ (item.settled setting?).skus = giver.skus := by
  rw [hasSkus_settled, skus_settled, given]
  simp

end Pcd

theorem forall₂_sameButGuid_refl (entries : List (String × SkuValue)) :
    Forall₂ SameButGuid entries entries :=
  List.forall₂_same.2 fun _ _ => ⟨rfl, rfl⟩

namespace Platform

variable {platform : Platform} {packages : List Package} {module : SourcePath}

/-- What becomes of the fields of an item under the settings of a platform: a field comes from the
setting for the module if that one gives it, else from the general one, else from the item. -/
structure Merged (general? own? : Option Pcd) (item pcd : Pcd) : Prop where
  id : pcd.id = item.id
  value : pcd.value = Pcd.givenText Pcd.value own? (Pcd.givenText Pcd.value general? item.value)
  token : pcd.token = Pcd.givenText Pcd.token own? (Pcd.givenText Pcd.token general? item.token)
  datumType? : pcd.datumType? =
    (own?.bind Pcd.datumType?).or ((general?.bind Pcd.datumType?).or item.datumType?)
  skus : ∀ giver, (own?.filter Pcd.hasSkus).or (general?.filter Pcd.hasSkus) = some giver →
    Forall₂ SameButGuid giver.skus.entries pcd.skus.entries
  access : ∀ mine, item.access? = some mine → item.pending = false →
    pcd.access? = some mine ∨
      mine = .dynamicEx ∧ (pcd.access? = some .dynamicExHii ∨ pcd.access? = some .dynamicExVpd)

variable {id : PcdId} {item pcd : Pcd}

theorem Settles.skus (settles : platform.Settles module packages id item pcd) {giver : Pcd}
    (given : ((platform.ownSetting? module id).filter Pcd.hasSkus).or
      ((platform.pcds.get? id).filter Pcd.hasSkus) = some giver) :
    Forall₂ SameButGuid giver.skus.entries pcd.skus.entries := by
  obtain ⟨skus, resolved, rfl⟩ := settles.eq
  cases own : (platform.ownSetting? module id).filter Pcd.hasSkus with
  | some setting =>
    rw [own, Option.some_or] at given
    obtain rfl := Option.some.inj given
    obtain ⟨filled, last⟩ := Pcd.skus_settled_of_giver
      (((item.settled (platform.pcds.get? id)).completed platform).withSkus skus) own
    rw [Pcd.skus_completed_of_hasSkus platform filled, last]
    exact forall₂_sameButGuid_refl _
  | none =>
    rw [own, Option.none_or] at given
    obtain ⟨filled, first⟩ := Pcd.skus_settled_of_giver item given
    have carried := Pcd.hasSkus_withSkus resolved
    rw [Pcd.hasSkus_completed, filled, Bool.true_or] at carried
    -- The values of the general setting are still there, so nothing is filled in a second time.
    rw [Pcd.skus_completed_of_hasSkus platform (by rw [Pcd.hasSkus_settled, carried]; rfl),
      Pcd.skus_settled, own]
    rwa [Pcd.skus_completed_of_hasSkus platform filled, first] at resolved

theorem Settles.access (settles : platform.Settles module packages id item pcd) {mine : Access}
    (own : item.access? = some mine) (chosen : item.pending = false) :
    ∃ final, pcd.access? = some final ∧ mine.Narrows final := by
  obtain ⟨general, skus, overridden, -, changed⟩ := settles.steps
  obtain ⟨stillChosen, first, found, narrows⟩ := Pcd.narrows_of_override overridden own chosen
  cases setting : platform.ownSetting? module id with
  | none =>
    rw [setting, Option.elim_none] at changed
    exact ⟨first, by rw [changed]; exact found, narrows⟩
  | some _ =>
    rw [setting, Option.elim_some] at changed
    obtain ⟨-, last, final, further⟩ := Pcd.narrows_of_override changed found stillChosen
    exact ⟨last, final, narrows.trans further⟩

theorem Settles.merged (settles : platform.Settles module packages id item pcd) :
    Merged (platform.pcds.get? id) (platform.ownSetting? module id) item pcd := by
  obtain ⟨skus, -, eq⟩ := settles.eq
  refine { id := ?_, value := ?_, token := ?_, datumType? := ?_, skus := ?_, access := ?_ }
  · simp [eq, Pcd.withSkus]
  · simp [eq, Pcd.withSkus, Pcd.value_settled]
  · simp [eq, Pcd.withSkus, Pcd.token_settled]
  · simp [eq, Pcd.withSkus, Pcd.datumType?_settled]
  · exact fun giver given => settles.skus given
  · intro mine own chosen
    obtain ⟨final, found, same | ⟨rfl, flavour⟩⟩ := settles.access own chosen
    · exact .inl (found.trans (congrArg some same))
    · rw [found]
      cases final <;> simp [Access.isDynamicEx] at flavour ⊢

/-- The items of a module stay in place, and each has every field from the last setting that gives it.
An item that the module gives an access keeps it; only `DynamicEx` is narrowed. -/
theorem fields_applySettings {pcds : Table PcdId Pcd} {result : List Pcd}
    (ok : platform.applySettings module pcds packages = .ok result) :
    result.map Pcd.id = pcds.values.map Pcd.id ∧
      ((∀ entry ∈ pcds.entries, entry.2.id = entry.1) → result.map Pcd.id = pcds.keys) ∧
      Forall₂ (fun entry pcd =>
        Merged (platform.pcds.get? entry.1) (platform.ownSetting? module entry.1) entry.2 pcd)
        pcds.entries result := by
  have merged := (applySettings_settles ok).imp fun _ _ settles => settles.merged
  have ids : result.map Pcd.id = pcds.values.map Pcd.id := by
    rw [Table.values, List.map_map, ← List.forall₂_eq_eq_eq, List.forall₂_map_left_iff,
      List.forall₂_map_right_iff]
    exact merged.flip.imp fun _ _ fields => fields.id
  refine ⟨ids, fun keyed => ?_, merged⟩
  rw [ids, Table.values, Table.keys, List.map_map]
  exact List.map_congr_left keyed

def exMode : Pcd where
  id := ⟨"Mode", "Space"⟩
  access? := some .dynamicEx
  datumType? := some .uint8
  value := "0x1"
  token := "0x2"

def storedMode : Platform :=
  let skus : Table String SkuValue := .ofList [("DEFAULT", { variableName := "Mode", hiiDefault := "0x5" })]
  let mode : Pcd := { id := exMode.id, access? := some .dynamicExHii, value := "0x5", skus }
  { settingOwn { id := exMode.id, value := "0x9" } with pcds := .ofList [(mode.id, mode)] }

theorem fields_exMode :
    ∃ pcd, settledApp storedMode exMode = .ok [pcd] ∧ [pcd].map Pcd.id = [exMode.id] ∧
      pcd.value = "0x9" ∧ pcd.token = "0x2" ∧ pcd.access? = some .dynamicExHii := by
  obtain ⟨-, ids, items⟩ := fields_applySettings
    (rfl : storedMode.applySettings (.ofText "App.inf") (.ofList [(exMode.id, exMode)]) [] = .ok _)
  cases items with
  | cons mode _ => exact ⟨_, rfl, ids (by decide), mode.value, mode.token, rfl⟩

end Platform

end UefiBuild
