import Mathlib.Data.List.Perm.Basic
import UefiBuild.Proofs.Catalog.Module
import UefiBuild.Proofs.Library.Bindings

namespace UefiBuild

open List (Perm)

theorem flatten_putEntry {κ α : Type} [DecidableEq κ] (key : κ) (extra : List α)
    (l : List (κ × List α)) :
    Perm ((putEntry key ((l.lookup key).getD [] ++ extra) l).map Prod.snd).flatten
      ((l.map Prod.snd).flatten ++ extra) := by
  induction l with
  | nil => simp [putEntry]
  | cons entry rest ih =>
    obtain ⟨first, values⟩ := entry
    rw [lookup_entry, putEntry]
    by_cases same : first = key
    · subst same
      simp only [if_pos, Option.getD_some, List.map_cons, List.flatten_cons, List.append_assoc]
      exact List.perm_append_comm.append_left values
    · rw [if_neg same, if_neg (Ne.symm same)]
      simp only [List.map_cons, List.flatten_cons, List.append_assoc]
      exact ih.append_left values

theorem eq_of_count_map_eq_one {α : Type} {f : α → Nat} {l : List α} {n : Nat}
    (once : (l.map f).count n = 1) {a b : α} (here : a ∈ l) (there : b ∈ l) (value : f a = n)
    (other : f b = n) : a = b := by
  rw [List.count_eq_length_filter, List.filter_map, List.length_map, List.length_eq_one_iff] at once
  obtain ⟨only, single⟩ := once
  have among {c : α} (member : c ∈ l) (value : f c = n) : c = only := by
    rw [← List.mem_singleton, ← single]
    exact List.mem_filter.2 ⟨member, by simp [value]⟩
  rw [among here value, among there other]

namespace RecordStore

def records (store : RecordStore) : List Record := store.files.values.flatten.map Prod.snd

def ids (store : RecordStore) : List Nat := store.records.map Record.id

def number (store : RecordStore) (record : Record) : Nat :=
  if record.id = 0 then store.lastId + 1 else record.id

variable (store : RecordStore) (file : SourcePath) (place : Section) (record : Record)

theorem records_addFile : Perm (store.addFile file).records store.records := by
  have same := (flatten_putEntry file [] store.files.entries).map Prod.snd
  simpa [addFile, records, Table.update, Table.insert, Table.values, Table.get?] using same

theorem push_number : (store.push file place record).2 = store.number record := by
  unfold push number
  split <;> rfl

theorem records_push : Perm (store.push file place record).1.records
    (store.records ++ [{ record with id := store.number record }]) := by
  rw [← push_number store file place]
  have added := (flatten_putEntry file [(place, { record with id := (store.push file place record).2 })]
    store.files.entries).map Prod.snd
  rwa [List.map_append, List.map_singleton] at added

theorem lastId_push : (store.push file place record).1.lastId =
    if record.id = 0 then store.lastId + 1 else store.lastId := rfl

end RecordStore

/-- A call that changes a store. A record that is pushed can bring a number of its own; the number zero
stands for none. -/
inductive StoreCall
  | addFile (file : SourcePath)
  | push (file : SourcePath) (place : Section) (record : Record)
  | add (file : SourcePath) (place : Section) (values : List String)
  | define (file : SourcePath) (name value : String)

namespace StoreCall

def apply (store : RecordStore) : StoreCall → RecordStore
  | addFile file => store.addFile file
  | push file place record => (store.push file place record).1
  | add file place values => (store.add file place values).1
  | define file name value => store.define file name value

def record? : StoreCall → Option Record
  | addFile _ => none
  | push _ _ record => some record
  | add _ _ values => some { values }
  | define _ name value => some { values := [name, value] }

theorem apply_cases (store : RecordStore) (call : StoreCall) :
    (call.record? = none ∧ ∃ file, call.apply store = store.addFile file) ∨
      ∃ file place record, call.record? = some record ∧
        call.apply store = (store.push file place record).1 := by
  cases call with
  | addFile file => exact .inl ⟨rfl, file, rfl⟩
  | push file place record => exact .inr ⟨file, place, record, rfl, rfl⟩
  | add file place values => exact .inr ⟨file, place, _, rfl, rfl⟩
  | define file name value => exact .inr ⟨file, .defines, _, rfl, rfl⟩

def applyAll (store : RecordStore) (calls : List StoreCall) : RecordStore := calls.foldl apply store

def ownIds (calls : List StoreCall) : List Nat :=
  ((calls.filterMap record?).map Record.id).filter (· ≠ 0)

def unnumbered (calls : List StoreCall) : Nat := (calls.filterMap record?).countP (·.id = 0)

theorem ids_apply (store : RecordStore) (call : StoreCall) :
    Perm (call.apply store).ids (store.ids ++ (call.record?.map store.number).toList) := by
  rcases apply_cases store call with ⟨silent, file, known⟩ | ⟨file, place, record, filed, pushed⟩
  · simpa [known, silent, RecordStore.ids] using (store.records_addFile file).map Record.id
  · simpa [pushed, filed, RecordStore.ids] using (store.records_push file place record).map Record.id

theorem lastId_apply (store : RecordStore) (call : StoreCall) :
    (call.apply store).lastId = store.lastId + unnumbered [call] := by
  rcases apply_cases store call with ⟨silent, file, known⟩ | ⟨file, place, record, filed, pushed⟩
  · simp [known, silent, unnumbered, RecordStore.addFile]
  · rw [pushed, RecordStore.lastId_push]
    by_cases own : record.id = 0 <;> simp [unnumbered, filed, own]

/-- The numbers in a store are those that its records have brought, and the next ones in a row. -/
theorem ids_applyAll (store : RecordStore) (calls : List StoreCall) :
    Perm (applyAll store calls).ids
      (store.ids ++ (ownIds calls ++ List.range' (store.lastId + 1) (unnumbered calls))) := by
  induction calls generalizing store with
  | nil => simp [applyAll, ownIds, unnumbered]
  | cons call rest ih =>
    have step : applyAll store (call :: rest) = applyAll (call.apply store) rest := rfl
    rw [step]
    refine (ih _).trans (((ids_apply store call).append_right _).trans ?_)
    rw [List.append_assoc, lastId_apply]
    refine List.Perm.append_left _ ?_
    cases filed : call.record? with
    | none => simp [ownIds, unnumbered, filed]
    | some record =>
      by_cases given : record.id = 0
      · have count : unnumbered (call :: rest) = unnumbered rest + 1 := by simp [unnumbered, filed, given]
        have own : ownIds (call :: rest) = ownIds rest := by simp [ownIds, filed, given]
        have first : unnumbered [call] = 1 := by simp [unnumbered, filed, given]
        rw [count, own, first, List.range'_succ, Option.map_some, RecordStore.number, if_pos given,
          Option.toList_some, List.singleton_append]
        exact List.perm_middle.symm
      · have count : unnumbered (call :: rest) = unnumbered rest := by simp [unnumbered, filed, given]
        have own : ownIds (call :: rest) = record.id :: ownIds rest := by simp [ownIds, filed, given]
        have first : unnumbered [call] = 0 := by simp [unnumbered, filed, given]
        rw [count, own, first, Option.map_some, RecordStore.number, if_neg given]
        exact .refl _

theorem lastId_applyAll (store : RecordStore) (calls : List StoreCall) :
    (applyAll store calls).lastId = store.lastId + unnumbered calls := by
  induction calls generalizing store with
  | nil => rfl
  | cons call rest ih =>
    have count : unnumbered (call :: rest) = unnumbered [call] + unnumbered rest := by
      cases filed : call.record? <;> simp [unnumbered, filed, List.countP_cons, Nat.add_comm]
    have step : applyAll store (call :: rest) = applyAll (call.apply store) rest := rfl
    rw [step, ih, lastId_apply, count, Nat.add_assoc]

theorem records_subset_applyAll (store : RecordStore) (calls : List StoreCall) :
    store.records ⊆ (applyAll store calls).records := by
  induction calls generalizing store with
  | nil => exact List.Subset.refl _
  | cons call rest ih =>
    refine List.Subset.trans ?_ (ih (call.apply store))
    rcases apply_cases store call with ⟨-, file, known⟩ | ⟨file, place, record, -, pushed⟩
    · rw [known]
      exact (store.records_addFile file).symm.subset
    · rw [pushed]
      exact List.Subset.trans (List.subset_append_left _ _)
        (store.records_push file place record).symm.subset

/-- A number that the store gives is shared by those records that bring it themselves. -/
theorem count_number (earlier later : List StoreCall) (file : SourcePath) (place : Section) {record : Record}
    (given : record.id = 0) :
    (applyAll {} (earlier ++ .push file place record :: later)).ids.count (unnumbered earlier + 1) =
      (ownIds (earlier ++ later)).count (unnumbered earlier + 1) + 1 := by
  have own : ownIds (earlier ++ .push file place record :: later) = ownIds (earlier ++ later) := by
    simp [ownIds, record?, given]
  have count : unnumbered (earlier ++ .push file place record :: later) =
      unnumbered earlier + (unnumbered later + 1) := by
    simp [unnumbered, record?, given]
  have empty : ({} : RecordStore).ids = [] := rfl
  have among : unnumbered earlier + 1 ∈ List.range' (({} : RecordStore).lastId + 1)
      (unnumbered earlier + (unnumbered later + 1)) := by
    rw [List.mem_range'_1]
    simp only
    omega
  rw [(ids_applyAll {} _).count_eq, own, count, empty, List.nil_append, List.count_append,
    List.count_eq_one_of_mem List.nodup_range' among]

end StoreCall

namespace Platform

def ComponentList.NumberedBy (rows : List Record) (list : ComponentList) : Prop :=
  ∀ module component, list.components.get? module = some component →
    ∃ row ∈ rows, component.id = row.id ∧ module = .ofText (row.value 0)

theorem ComponentList.numberedBy_addComponent {store : RecordStore} {dsc : SourcePath} {arch : String}
    {rows : List Record} {list next : ComponentList} {row : Record} (numbered : list.NumberedBy rows)
    (listed : row ∈ rows) (added : addComponent store dsc arch list row = .ok next) :
    next.NumberedBy rows := by
  unfold addComponent at added
  obtain ⟨_, read, added⟩ := Checked.bind_eq_ok.1 added
  obtain rfl := instanceFile_eq read
  split at added
  · cases added
  · obtain ⟨⟨libraryClasses, files, forced⟩, -, added⟩ := Checked.bind_eq_ok.1 added
    obtain rfl := Checked.pure_eq_ok.1 added
    intro module component found
    rw [Table.get?_insert] at found
    split at found
    · rename_i here
      obtain rfl := Option.some.inj found
      exact ⟨row, listed, rfl, here⟩
    · exact numbered module component found

theorem BoundFrom.exists_row {platform : Platform} {store : RecordStore} {dsc module : SourcePath}
    {arch : String} {component : Component} (bound : platform.BoundFrom store dsc arch)
    (found : platform.components.get? module = some component) :
    ∃ row ∈ store.query dsc .components (some arch) none,
      component.id = row.id ∧ module = .ofText (row.value 0) := by
  obtain ⟨files, list, same, added⟩ := bound.components
  have numbered : list.NumberedBy (store.query dsc .components (some arch) none) :=
    Checked.foldlM_induction added nofun fun _ listed _ _ before step =>
      ComponentList.numberedBy_addComponent before listed step
  exact numbered module component (same ▸ found)

end Platform

/-- What is said for the component that a record stands for is said for no other record of the store. -/
structure RecordStore.OwnsAlone (store : RecordStore) (record : Record) : Prop where
  rows : ∀ file place arch?, ∀ row ∈ store.query file place arch? (some record.id), ∀ owner ∈ store.records,
    row.owner? = some owner.id → owner = record
  components : ∀ lookup dsc arch sku? start platform after,
    (Platform.resolve store lookup dsc arch sku?).run.run start = (.ok platform, after) →
    ∀ module component, platform.components.get? module = some component → component.id = record.id →
      module = .ofText (record.value 0)

theorem RecordStore.ownsAlone_of_count {store : RecordStore} {record : Record}
    (listed : record ∈ store.records) (once : store.ids.count record.id = 1) : store.OwnsAlone record where
  rows file place arch? row found owner member owns := by
    have same := Option.some.inj (owns.symm.trans (mem_query_iff.1 found).2.1)
    exact eq_of_count_map_eq_one once member listed same rfl
  components lookup dsc arch sku? start platform after resolved module component found same := by
    have bound := Platform.ends_resolve store lookup dsc arch sku? start platform after resolved
    obtain ⟨row, member, id, rfl⟩ := bound.exists_row found
    have stored : row ∈ store.records := List.mem_map_of_mem (mem_values_of_query member)
    rw [eq_of_count_map_eq_one once stored listed (id.symm.trans same) rfl]

namespace StoreCall

/-- A number that the store gives to a record is that of no other record exactly if none brings it, and then
what is said for the record's component reaches no other one. -/
theorem number_unique_iff (earlier later : List StoreCall) (file : SourcePath) (place : Section)
    {record : Record} (given : record.id = 0) :
    let number := ((applyAll {} earlier).push file place record).2
    let store := applyAll {} (earlier ++ .push file place record :: later)
    number = unnumbered earlier + 1 ∧
      (store.ids.count number = 1 ↔ number ∉ ownIds (earlier ++ later)) ∧
      (number ∉ ownIds (earlier ++ later) → store.OwnsAlone { record with id := number }) := by
  intro number store
  have own : number = (applyAll {} earlier).number record := RecordStore.push_number _ file place record
  have next : number = unnumbered earlier + 1 := by
    have last : ({} : RecordStore).lastId = 0 := rfl
    rw [own, RecordStore.number, if_pos given, lastId_applyAll, last, Nat.zero_add]
  have unique : store.ids.count number = 1 ↔ number ∉ ownIds (earlier ++ later) := by
    rw [next, count_number earlier later file place given, Nat.add_eq_right, List.count_eq_zero]
  refine ⟨next, unique, fun free => RecordStore.ownsAlone_of_count ?_ (unique.2 free)⟩
  have filed : { record with id := number } ∈ ((applyAll {} earlier).push file place record).1.records := by
    rw [own]
    exact ((applyAll {} earlier).records_push file place record).symm.subset (by simp)
  have run : store = applyAll ((applyAll {} earlier).push file place record).1 later := by
    simp only [store, applyAll, List.foldl_append, List.foldl_cons]
    rfl
  rw [run]
  exact records_subset_applyAll _ later filed

def firstComponent (id : Nat) : List StoreCall :=
  let dsc : SourcePath := .ofText "P.dsc"
  [.define dsc "PLATFORM_NAME" "P", .define dsc "PLATFORM_GUID" "G",
    .push dsc .components { values := ["First.inf"], id },
    .push dsc (.pcds .fixedAtBuild) { values := ["Space", "Mode", "0x9"], owner? := some id }]

theorem number_unique_apart :
    let store := applyAll {} (firstComponent 7 ++ [.add (.ofText "P.dsc") .components ["Second.inf"]])
    ((applyAll {} (firstComponent 7)).add (.ofText "P.dsc") .components ["Second.inf"]).2 = 4 ∧
      store.ids.count 4 = 1 ∧ store.OwnsAlone { values := ["Second.inf"], id := 4 } := by
  have free : 4 ∉ ownIds (firstComponent 7 ++ []) := by decide +kernel
  have given : ({ values := ["Second.inf"] } : Record).id = 0 := rfl
  obtain ⟨next, unique, alone⟩ :=
    number_unique_iff (firstComponent 7) [] (.ofText "P.dsc") .components given
  exact ⟨next, unique.2 free, alone free⟩

def componentValues (store : RecordStore) : Option (List (String × List String)) :=
  ((Platform.resolve store (Catalog.module store) (.ofText "P.dsc") "X64" none).run.run {}).1.toOption.map
    fun platform => platform.components.entries.map fun (module, component) =>
      (module.text, component.pcds.values.map Pcd.value)

/-- A component whose record gets a number that another one has brought has the settings of that one. -/
theorem number_shared :
    let store := applyAll {} (firstComponent 4 ++ [.add (.ofText "P.dsc") .components ["Second.inf"]])
    ((applyAll {} (firstComponent 4)).add (.ofText "P.dsc") .components ["Second.inf"]).2 = 4 ∧
      store.ids = [1, 2, 4, 3, 4] ∧
      componentValues store = some [("First.inf", ["0x9"]), ("Second.inf", ["0x9"])] := by
  decide +kernel

end StoreCall

end UefiBuild
