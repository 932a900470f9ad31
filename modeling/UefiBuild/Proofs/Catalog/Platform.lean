import UefiBuild.Proofs.Pcd.Placeholder

namespace UefiBuild

open BuildStep (Keeps)

namespace Platform

structure ReadFrom (store : RecordStore) (file : SourcePath) (arch : String) (sku? : Option String)
    (platform : Platform) : Prop where
  arch_eq : platform.arch = arch
  header : PlatformHeader.readDefines file (store.query file .defines (some arch) none) =
    .ok platform.toPlatformHeader
  skuIds : readSkuIds file (store.query file .skuIds none none) = .ok platform.skuIds
  skuName : platform.skuName =
    chooseSku platform.skuIds ([sku?, platform.skuChoice?].filterMap id)
  pcds : resolvePcds store file arch platform.skuName
    ((platform.skuIds.get? platform.skuName).getD "") = .ok platform.pcds
  components : ∃ start list, start.components = ∅ ∧ platform.components = list.components ∧
    (store.query file .components (some arch) none).foldlM (addComponent store file arch) start = .ok list

variable {store : RecordStore} {file : SourcePath} {arch : String} {sku? : Option String}

theorem ReadFrom.pcds_eq {platform other : Platform} (here : platform.ReadFrom store file arch sku?)
    (there : other.ReadFrom store file arch sku?) : platform.pcds = other.pcds := by
  have headers := Except.ok.inj (here.header.symm.trans there.header)
  have ids := Except.ok.inj (here.skuIds.symm.trans there.skuIds)
  have names : platform.skuName = other.skuName := by
    rw [here.skuName, there.skuName, ids, headers]
  have pcds := here.pcds
  rw [names, ids, there.pcds] at pcds
  exact (Except.ok.inj pcds).symm

theorem keeps_resolve {inv : Catalog → Prop} {lookup : Lookup Module}
    (lookups : ∀ file arch, Keeps inv (lookup file arch) fun _ => True) (store : RecordStore)
    (file : SourcePath) (arch : String) (sku? : Option String) :
    Keeps inv (resolve store lookup file arch sku?) fun platform =>
      platform.ReadFrom store file arch sku? := by
  unfold resolve
  refine (Keeps.ofChecked _).bind fun header read => ?_
  refine (Keeps.ofChecked _).bind fun skuIds ids => ?_
  refine (Keeps.ofChecked _).bind fun ⟨bindings, forced⟩ _ => ?_
  have legacy : Keeps inv ((store.query file .libraryInstances (some arch) none).foldlM
      (bindLegacy lookup file arch) bindings) fun _ => True :=
    Keeps.foldlM trivial fun _ record _ _ =>
      (Keeps.ofChecked _).bind fun library _ => (lookups library arch).bind fun _ _ => .pure trivial
  refine legacy.bind fun bindings _ => ?_
  refine (Keeps.ofChecked _).bind fun list added => ?_
  refine (Keeps.ofChecked _).bind fun pcds settings => ?_
  refine (Keeps.ofChecked _).bind fun options _ => ?_
  exact .pure ⟨rfl, read, ids, rfl, settings, _, list, rfl, rfl, added⟩

theorem asksIf_plainPcd {part : PcdSection} {id : PcdId} {setting : PlacedSetting} {pcd : Pcd}
    {allowed : Prop} (ok : plainPcd file part id setting = .ok pcd) : pcd.AsksIf allowed := by
  obtain ⟨field, -, ok⟩ := Checked.bind_eq_ok.1 ok
  obtain ⟨datumType?, -, ok⟩ := Checked.bind_eq_ok.1 ok
  obtain rfl := Checked.pure_eq_ok.1 ok
  exact .of_empty rfl

theorem isVpd_of_settingForm {part : PcdSection} (form : settingForm part = .vpd) :
    part.access.isVpd := by
  revert form
  cases part <;> decide

theorem asksIf_skuPcd {skuName skuId : String} {part : PcdSection} {id : PcdId}
    {setting : PlacedSetting} {pcd : Pcd} (ok : skuPcd file skuName skuId part id setting = .ok pcd) :
    pcd.AsksIf pcd.isVpd := by
  unfold skuPcd at ok
  obtain ⟨field, -, ok⟩ := Checked.bind_eq_ok.1 ok
  split at ok
  · obtain rfl := Checked.pure_eq_ok.1 ok
    exact .of_single rfl fun auto => absurd auto (by simp [OffsetFile.auto])
  · rename_i form
    obtain rfl := Checked.pure_eq_ok.1 ok
    exact .of_single rfl fun _ => isVpd_of_settingForm form
  · obtain ⟨datumType?, -, ok⟩ := Checked.bind_eq_ok.1 ok
    obtain rfl := Checked.pure_eq_ok.1 ok
    exact .of_single rfl fun auto => absurd auto (by simp [OffsetFile.auto])

theorem asksIf_resolvePcds {skuName skuId : String} {pcds : Table PcdId Pcd}
    (ok : resolvePcds store file arch skuName skuId = .ok pcds) {id : PcdId} {pcd : Pcd}
    (found : pcds.get? id = some pcd) : pcd.AsksIf pcd.isVpd := by
  obtain ⟨plain, plainRead, ok⟩ := Checked.bind_eq_ok.1 ok
  obtain ⟨dynamic, dynamicRead, ok⟩ := Checked.bind_eq_ok.1 ok
  obtain rfl := Checked.pure_eq_ok.1 ok
  obtain ⟨other, listed, same⟩ := List.mem_map.1 (Table.mem_ofList (Table.mem_entries.2 found))
  obtain ⟨rfl, rfl⟩ := Prod.mk.inj same
  rcases List.mem_append.1 listed with member | member
  · obtain ⟨_, _, read⟩ := Checked.exists_of_mem_mapM plainRead member
    exact asksIf_plainPcd read
  · obtain ⟨_, _, read⟩ := Checked.exists_of_mem_mapM dynamicRead member
    exact asksIf_skuPcd read

def OwnPlain (components : Table SourcePath Component) : Prop :=
  ∀ module component, components.get? module = some component →
    ∀ id pcd, component.pcds.get? id = some pcd → pcd.skus = ∅

theorem ownPlain_addComponent {list next : ComponentList} {record : Record}
    (plain : OwnPlain list.components) (ok : addComponent store file arch list record = .ok next) :
    OwnPlain next.components := by
  unfold addComponent at ok
  obtain ⟨module, -, ok⟩ := Checked.bind_eq_ok.1 ok
  split at ok
  · cases ok
  · obtain ⟨⟨libraryClasses, files, forced⟩, -, ok⟩ := Checked.bind_eq_ok.1 ok
    obtain rfl := Checked.pure_eq_ok.1 ok
    intro other component found id pcd set
    rw [Table.get?_insert] at found
    split at found
    · obtain rfl := Option.some.inj found
      obtain ⟨other, listed, same⟩ := List.mem_map.1 (Table.mem_ofList (Table.mem_entries.2 set))
      obtain ⟨rfl, rfl⟩ := Prod.mk.inj same
      obtain ⟨part, -, written⟩ := List.mem_flatMap.1 listed
      obtain ⟨row, -, rfl⟩ := List.mem_map.1 written
      rfl
    · exact plain other component found id pcd set

theorem ReadFrom.wellSet {platform : Platform} (read : platform.ReadFrom store file arch sku?) :
    platform.WellSet := by
  obtain ⟨start, list, empty, same, added⟩ := read.components
  let plain (list : ComponentList) : Prop := OwnPlain list.components
  have first : plain start := by
    intro module component found
    simp [empty] at found
  have plain : OwnPlain platform.components := by
    rw [same]
    exact (Checked.foldlM_induction added first fun record _ list next plain step =>
      ownPlain_addComponent plain step : plain list)
  refine ⟨fun id pcd => asksIf_resolvePcds read.pcds, fun module id pcd own => ?_⟩
  obtain ⟨component, found, set⟩ := Option.bind_eq_some_iff.1 own
  exact plain module component found id pcd set

theorem get?_addPcd (platform : Platform) (id : PcdId) (value : String) (other : PcdId) :
    (platform.addPcd id value).pcds.get? other =
      if other = id then some { (platform.pcds.get? id).getD { id } with value }
      else platform.pcds.get? other := Table.get?_update _ _ _ _

theorem WellSet.addPcd {platform : Platform} (wellSet : platform.WellSet) (id : PcdId) (value : String) :
    (platform.addPcd id value).WellSet := by
  refine ⟨fun other pcd found => ?_, wellSet.own⟩
  rw [get?_addPcd] at found
  split at found
  · obtain rfl := Option.some.inj found
    cases old : platform.pcds.get? id with
    | none => exact .of_empty rfl
    | some pcd => exact (wellSet.settings id pcd old).of_offsets_eq rfl
  · exact wellSet.settings other pcd found

theorem mem_flashIds_addPcd {platform : Platform} {id other : PcdId} {value : String} :
    other ∈ OffsetStage.flashIds (platform.addPcd id value) ↔
      other ∈ OffsetStage.flashIds platform := by
  rw [mem_flashIds, mem_flashIds, get?_addPcd]
  split
  · rename_i same
    subst same
    cases old : platform.pcds.get? other with
    | none => simp [Pcd.isVpd]
    | some pcd => simp [Pcd.isVpd]
  · exact Iff.rfl

end Platform

end UefiBuild
