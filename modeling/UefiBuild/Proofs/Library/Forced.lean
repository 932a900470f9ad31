import UefiBuild.Proofs.Library.Bindings
import UefiBuild.Proofs.Library.Links

namespace UefiBuild.Platform

open BuildStep (Ends)
open Catalog (FilledFrom)

def ownRows (store : RecordStore) (file : SourcePath) (arch : String) (record : Record) : List Record :=
  store.query file .libraryClasses (some arch) (some record.id)

/-- Each component with its rows and their classes. Forced rows are numbered on from one component to the
next. -/
def ownNamed (store : RecordStore) (file : SourcePath) (arch : String) (forced : Nat) :
    List Record → List (Record × List (String × Record))
  | [] => []
  | record :: rest =>
    (record, namedRows forced (ownRows store file arch record)) ::
      ownNamed store file arch (forced + forcedCount (ownRows store file arch record)) rest

def ownTable (named : List (String × Record)) : Table String SourcePath :=
  .ofList (named.map fun named => (named.1, .ofText (named.2.value 1)))

variable {store : RecordStore} {file : SourcePath} {arch : String}

section Components

theorem foldlM_bindOwn {records : List Record} {start last : Table String SourcePath × List SourcePath × Nat}
    (ok : records.foldlM (bindOwn file) start = .ok last) :
    last.1 = start.1.insertAll ((namedRows start.2.2 records).map fun named =>
        (named.1, .ofText (named.2.value 1))) ∧
      last.2.2 = start.2.2 + forcedCount records := by
  induction records generalizing start with
  | nil =>
    obtain rfl := Checked.pure_eq_ok.1 ok
    exact ⟨rfl, rfl⟩
  | cons record rest ih =>
    obtain ⟨next, first, others⟩ := Checked.bind_eq_ok.1 (List.foldlM_cons.symm.trans ok)
    obtain ⟨library, read, first⟩ := Checked.bind_eq_ok.1 first
    obtain rfl := instanceFile_eq read
    obtain rfl := Checked.pure_eq_ok.1 first
    rw [forcedCount_cons]
    exact ih others

theorem entries_addComponent {record : Record} {list next : ComponentList}
    (ok : addComponent store file arch list record = .ok next) :
    ∃ component : Component, next.components.entries =
        list.components.entries ++ [(.ofText (record.value 0), component)] ∧
      component.libraryClasses = ownTable (namedRows list.forced (ownRows store file arch record)) ∧
      next.forced = list.forced + forcedCount (ownRows store file arch record) := by
  obtain ⟨module, read, ok⟩ := Checked.bind_eq_ok.1 ok
  obtain rfl := instanceFile_eq read
  split at ok
  · cases ok
  · rename_i new
    obtain ⟨⟨own, files, forced⟩, bound, ok⟩ := Checked.bind_eq_ok.1 ok
    obtain ⟨classes, count⟩ := foldlM_bindOwn bound
    obtain rfl := Checked.pure_eq_ok.1 ok
    refine ⟨_, putEntry_of_absent ?_ _, classes, count⟩
    intro listed
    exact new (Table.mem_keys.1 listed)

theorem entries_components {records : List Record} {list last : ComponentList}
    (ok : records.foldlM (addComponent store file arch) list = .ok last) :
    last.components.entries.map (fun entry => (entry.1, entry.2.libraryClasses)) =
      list.components.entries.map (fun entry => (entry.1, entry.2.libraryClasses)) ++
        (ownNamed store file arch list.forced records).map fun own =>
          (.ofText (own.1.value 0), ownTable own.2) := by
  induction records generalizing list with
  | nil =>
    obtain rfl := Checked.pure_eq_ok.1 ok
    exact (List.append_nil _).symm
  | cons record rest ih =>
    obtain ⟨next, first, others⟩ := Checked.bind_eq_ok.1 (List.foldlM_cons.symm.trans ok)
    obtain ⟨component, entries, classes, forced⟩ := entries_addComponent first
    rw [ih others, entries, forced, ownNamed, List.map_append, List.map_singleton, classes,
      List.append_assoc]
    rfl

def componentRows (store : RecordStore) (file : SourcePath) (arch : String) :
    List (Record × List (String × Record)) :=
  ownNamed store file arch (forcedCount (sharedRows store file arch))
    (store.query file .components (some arch) none)

variable {platform : Platform}

theorem BoundFrom.entries_components (bound : platform.BoundFrom store file arch) :
    platform.components.entries.map (fun entry => (entry.1, entry.2.libraryClasses)) =
      (componentRows store file arch).map fun own => (.ofText (own.1.value 0), ownTable own.2) := by
  obtain ⟨files, list, same, ok⟩ := bound.components
  rw [same, Platform.entries_components ok]
  rfl

theorem BoundFrom.get?_components (bound : platform.BoundFrom store file arch)
    {own : Record × List (String × Record)} (listed : own ∈ componentRows store file arch) :
    ∃ component, platform.components.get? (.ofText (own.1.value 0)) = some component ∧
      component.libraryClasses = ownTable own.2 := by
  have member : ((.ofText (own.1.value 0), ownTable own.2) : SourcePath × Table String SourcePath) ∈
      platform.components.entries.map fun entry => (entry.1, entry.2.libraryClasses) := by
    rw [bound.entries_components]
    exact List.mem_map.2 ⟨own, listed, rfl⟩
  obtain ⟨⟨module, component⟩, there, same⟩ := List.mem_map.1 member
  obtain ⟨rfl, classes⟩ := Prod.mk.inj same
  exact ⟨component, Table.mem_entries.1 there, classes⟩

theorem BoundFrom.exists_componentRows (bound : platform.BoundFrom store file arch) {module : SourcePath}
    {component : Component} (found : platform.components.get? module = some component) :
    ∃ own ∈ componentRows store file arch, .ofText (own.1.value 0) = module ∧
      component.libraryClasses = ownTable own.2 := by
  have member : (module, component.libraryClasses) ∈
      platform.components.entries.map fun entry => (entry.1, entry.2.libraryClasses) :=
    List.mem_map.2 ⟨(module, component), Table.mem_entries.2 found, rfl⟩
  rw [bound.entries_components] at member
  obtain ⟨own, listed, same⟩ := List.mem_map.1 member
  obtain ⟨rfl, classes⟩ := Prod.mk.inj same
  exact ⟨own, listed, rfl, classes.symm⟩

end Components

section Names

def allRows (store : RecordStore) (file : SourcePath) (arch : String) : List Record :=
  sharedRows store file arch ++
    (store.query file .components (some arch) none).flatMap (ownRows store file arch)

theorem flatMap_ownNamed (forced : Nat) (components : List Record) :
    (ownNamed store file arch forced components).flatMap Prod.snd =
      namedRows forced (components.flatMap (ownRows store file arch)) := by
  induction components generalizing forced with
  | nil => rfl
  | cons record rest ih => rw [ownNamed, List.flatMap_cons, List.flatMap_cons, ih, namedRows_append]

theorem namedRows_allRows (store : RecordStore) (file : SourcePath) (arch : String) :
    namedRows 0 (allRows store file arch) =
      namedRows 0 (sharedRows store file arch) ++ (componentRows store file arch).flatMap Prod.snd := by
  rw [allRows, namedRows_append, componentRows, flatMap_ownNamed, Nat.zero_add]

theorem nodup_forced_names (forced : Nat) (records : List Record) :
    (((namedRows forced records).filter (·.2.IsForced)).map Prod.fst).Nodup := by
  rw [forced_names]
  exact List.Nodup.map forcedName_injective List.nodup_range'

theorem eq_of_forced_name {forced : Nat} {records : List Record} {one other : String × Record}
    (member : one ∈ namedRows forced records) (isForced : one.2.IsForced)
    (listed : other ∈ namedRows forced records) (same : other.1 = one.1) (free : other.2.value 0 ≠ one.1) :
    other = one := by
  have also : other.2.IsForced := by
    by_contra named
    exact free ((name_of_named listed named).symm.trans same)
  exact List.inj_on_of_nodup_map (nodup_forced_names forced records)
    (List.mem_filter.2 ⟨listed, decide_eq_true also⟩) (List.mem_filter.2 ⟨member, decide_eq_true isForced⟩) same

theorem isForcedClass_forcedName (number : Nat) : isForcedClass (forcedName number) := by
  rw [isForcedClass, Text.startsWith, toList_forcedName, Text.dropStart?_append]
  rfl

theorem value_of_ordinary_name {name : String} {row : Record} {forced : Nat} {records : List Record}
    (member : (name, row) ∈ namedRows forced records) (ordinary : isForcedClass name = false) :
    row.value 0 = name := by
  refine (name_of_named member fun isForced => ?_).symm
  obtain ⟨number, -, -, rfl⟩ := name_of_forced member isForced
  rw [isForcedClass_forcedName] at ordinary
  cases ordinary

end Names

section Linked

variable {platform : Platform} {module : Module} {catalog : Catalog} {bound : Table String (Shared Module)}
  {libraries : List (Shared Module)} {name : String} {row : Record}

theorem Links.exists_of_consumed (links : platform.Links module catalog bound libraries)
    (filled : FilledFrom store catalog) (consumed : name ∈ (platform.consumedClasses module).keys)
    {chosen : SourcePath} (choice : platform.chooseInstance? module name none = some chosen) :
    ∃ library ∈ libraries, library.value.file = chosen := by
  obtain ⟨suggested, use⟩ := Option.isSome_iff_exists.1 (Table.mem_keys.1 consumed)
  obtain ⟨library, found⟩ := Option.isSome_iff_exists.1
    (Table.mem_keys.1 ((links.classes name).2 ⟨suggested, .own use⟩))
  obtain ⟨proposed, file, -, chose, kept⟩ := (links.instances name library found).chosen
  refine ⟨library, (links.exact library).2 ⟨name, found⟩, ?_⟩
  -- The place has a choice, so no suggestion counts.
  rw [chooseInstance?, Option.or_none] at choice
  rw [← Option.or_assoc, choice, Option.some_or] at chose
  rw [(filled.read _ _ kept).file_eq, Option.some.inj chose]

theorem mem_consumedClasses_of_shared (type : module.type ≠ .userDefined)
    (listed : name ∈ platform.bindings.classes) (isForced : isForcedClass name)
    (found : (platform.libraryInstance? name module.type).isSome) :
    name ∈ (platform.consumedClasses module).keys := by
  obtain ⟨library, found⟩ := Option.isSome_iff_exists.1 found
  refine Table.mem_keys_insertAll.2 (.inr ?_)
  rw [if_neg type, List.map_append, List.mem_append]
  refine .inl (List.mem_map.2 ⟨(name, some library), List.mem_filterMap.2 ⟨name, ?_, ?_⟩, rfl⟩)
  · exact List.mem_filter.2 ⟨listed, isForced⟩
  · rw [found]
    rfl

theorem mem_consumedClasses_of_own {component : Component}
    (here : platform.components.get? module.file = some component)
    (listed : name ∈ component.libraryClasses.keys) (isForced : isForcedClass name) :
    name ∈ (platform.consumedClasses module).keys := by
  obtain ⟨entry, there, rfl⟩ := List.mem_map.1 listed
  refine Table.mem_keys_insertAll.2 (.inr ?_)
  rw [here, List.map_append, List.mem_append]
  exact .inr (List.mem_map.2 ⟨(entry.1, some entry.2),
    List.mem_map.2 ⟨entry, List.mem_filter.2 ⟨there, isForced⟩, rfl⟩, rfl⟩)

/-- No row inside the braces of a module's component names a class itself. -/
def OwnFree (store : RecordStore) (file : SourcePath) (arch : String) (module : SourcePath) (name : String) :
    Prop :=
  ∀ own ∈ componentRows store file arch, .ofText (own.1.value 0) = module →
    ∀ other ∈ own.2, other.2.value 0 ≠ name

/-- No row that a lookup finds for a type of modules names a class itself, or is for all classes. -/
def SharedFree (store : RecordStore) (file : SourcePath) (arch : String) (type : ModuleType) (name : String) :
    Prop :=
  ∀ other ∈ sharedRows store file arch, other.Reaches arch type →
    other.value 0 ≠ name ∧ other.value 0 ≠ "COMMON"

instance (store : RecordStore) (file : SourcePath) (arch : String) (module : SourcePath) (name : String) :
    Decidable (OwnFree store file arch module name) := inferInstanceAs (Decidable (∀ _ ∈ _, _))

instance (store : RecordStore) (file : SourcePath) (arch : String) (type : ModuleType) (name : String) :
    Decidable (SharedFree store file arch type name) := inferInstanceAs (Decidable (∀ _ ∈ _, _))

theorem mem_allRows_of_own {own : Record × List (String × Record)}
    (listed : own ∈ componentRows store file arch) {named : String × Record} (member : named ∈ own.2) :
    named ∈ namedRows 0 (allRows store file arch) := by
  rw [namedRows_allRows, List.mem_append]
  exact .inr (List.mem_flatMap.2 ⟨own, listed, member⟩)

theorem mem_allRows_of_shared {named : String × Record}
    (member : named ∈ namedRows 0 (sharedRows store file arch)) :
    named ∈ namedRows 0 (allRows store file arch) := by
  rw [namedRows_allRows, List.mem_append]
  exact .inl member

variable (read : platform.BoundFrom store file arch)
include read

theorem BoundFrom.own_instance {module chosen : SourcePath} (free : OwnFree store file arch module name)
    (member : (name, row) ∈ namedRows 0 (allRows store file arch)) (isForced : row.IsForced)
    (choice : (platform.components.get? module).bind (·.libraryClasses.get? name) = some chosen) :
    chosen = .ofText (row.value 1) := by
  obtain ⟨component, here, found⟩ := Option.bind_eq_some_iff.1 choice
  obtain ⟨own, listed, same, classes⟩ := read.exists_componentRows here
  rw [classes, ownTable, Table.get?_ofList] at found
  obtain ⟨other, there, bound⟩ := List.mem_map.1 (mem_of_lastFiled? found)
  obtain ⟨named, rfl⟩ := Prod.mk.inj bound
  rw [eq_of_forced_name member isForced (mem_allRows_of_own listed there) named (free own listed same other there)]

theorem BoundFrom.shared_instance {type : ModuleType} {chosen : SourcePath}
    (free : SharedFree store file arch type name)
    (member : (name, row) ∈ namedRows 0 (sharedRows store file arch)) (isForced : row.IsForced)
    (choice : platform.libraryInstance? name type = some chosen) : chosen = .ofText (row.value 1) := by
  rw [read.libraryInstance?_eq] at choice
  obtain ⟨filed, there, covers, rfl⟩ := WildcardTable.exists_row_of_resolve? choice
  obtain ⟨other, listed, rfl⟩ := List.mem_map.1 there
  have spelled : other.2.Reaches arch type ∧ (other.1 = name ∨ other.1 = "COMMON") := by
    simpa [WildcardTable.Covers, Record.Reaches, and_assoc] using covers
  obtain ⟨unnamed, special⟩ := free other.2 (mem_of_mem_namedRows listed) spelled.1
  rcases spelled.2 with same | wild
  · rw [eq_of_forced_name member isForced listed same unnamed]
  · have open' : ("COMMON", other.2) ∈ namedRows 0 (sharedRows store file arch) := by
      rw [← wild]
      exact listed
    exact absurd (value_of_ordinary_name open' (by decide)) special

end Linked

section Platforms

variable {lookup : Lookup Module} {sku? : Option String} {start between catalog after : Catalog}
  {platform : Platform} {module : Shared Module} {libraries : List (Shared Module)}

theorem BoundFrom.shared_forced_linked (read : platform.BoundFrom store file arch)
    {bound : Table String (Shared Module)} (links : platform.Links module.value catalog bound libraries)
    (filled : FilledFrom store catalog) {named : String × Record}
    (member : named ∈ namedRows 0 (sharedRows store file arch)) (isForced : named.2.IsForced)
    (reaches : named.2.Reaches arch module.value.type) (type : module.value.type ≠ .userDefined) :
    ∃ library ∈ libraries, platform.chooseInstance? module.value named.1 none = some library.value.file ∧
      (SharedFree store file arch module.value.type named.1 →
        OwnFree store file arch module.value.file named.1 →
        library.value.file = .ofText (named.2.value 1)) := by
  obtain ⟨number, -, -, name⟩ := name_of_forced member isForced
  have found : (platform.libraryInstance? named.1 module.value.type).isSome :=
    read.isSome_libraryInstance?.2 ⟨named, member, reaches, .inl rfl⟩
  have listed : named.1 ∈ platform.bindings.classes := by
    rw [read.binds.classes, mem_distinct]
    exact List.mem_map_of_mem member
  have consumed := mem_consumedClasses_of_shared type listed
    (name ▸ isForcedClass_forcedName number) found
  obtain ⟨instance', found⟩ := Option.isSome_iff_exists.1 found
  have choice : ∃ chosen, platform.chooseInstance? module.value named.1 none = some chosen := by
    rw [← Option.isSome_iff_exists, chooseInstance?, found]
    simp
  obtain ⟨chosen, choice⟩ := choice
  obtain ⟨library, linked, rfl⟩ := links.exists_of_consumed filled consumed choice
  refine ⟨library, linked, choice, fun sharedFree ownFree => ?_⟩
  -- Whichever of the two has chosen, it has a row of this name, and that can only be the forced one.
  rw [chooseInstance?, found, Option.some_or, Option.or_eq_some_iff] at choice
  rcases choice with own | ⟨-, shared⟩
  · exact read.own_instance ownFree (mem_allRows_of_shared member) isForced own
  · exact read.shared_instance sharedFree member isForced (found.trans shared)

theorem BoundFrom.own_forced_linked (read : platform.BoundFrom store file arch)
    {bound : Table String (Shared Module)} (links : platform.Links module.value catalog bound libraries)
    (filled : FilledFrom store catalog) {own : Record × List (String × Record)}
    (listed : own ∈ componentRows store file arch) (here : .ofText (own.1.value 0) = module.value.file)
    {named : String × Record} (member : named ∈ own.2) (isForced : named.2.IsForced) :
    ∃ library ∈ libraries, platform.chooseInstance? module.value named.1 none = some library.value.file ∧
      (OwnFree store file arch module.value.file named.1 →
        library.value.file = .ofText (named.2.value 1)) := by
  have among := mem_allRows_of_own listed member
  obtain ⟨number, -, -, name⟩ := name_of_forced among isForced
  obtain ⟨component, found, classes⟩ := read.get?_components listed
  rw [here] at found
  have bound : named.1 ∈ component.libraryClasses.keys := by
    rw [classes, ownTable, Table.keys_ofList, mem_distinct, List.map_map]
    exact List.mem_map_of_mem member
  have consumed := mem_consumedClasses_of_own found bound (name ▸ isForcedClass_forcedName number)
  obtain ⟨chosen, bound⟩ := Option.isSome_iff_exists.1 (Table.mem_keys.1 bound)
  have own : (platform.components.get? module.value.file).bind (·.libraryClasses.get? named.1) = some chosen := by
    rw [found, Option.bind_some, bound]
  have choice : platform.chooseInstance? module.value named.1 none = some chosen := by
    rw [chooseInstance?, own, Option.some_or]
  obtain ⟨library, linked, rfl⟩ := links.exists_of_consumed filled consumed choice
  exact ⟨library, linked, choice, fun free => read.own_instance free among isForced own⟩

theorem forced_names_unshared_iff (records : List Record) :
    (∀ one ∈ namedRows 0 records, one.2.IsForced → ∀ other ∈ namedRows 0 records, ¬ other.2.IsForced →
        other.1 ≠ one.1) ↔
      ∀ row ∈ records, ∀ number, 0 < number → number ≤ forcedCount records →
        row.value 0 ≠ forcedName number := by
  constructor
  · -- A row that names a number which has been given out shares it with the forced row that has it.
    intro unshared row member number positive within value
    have named : ¬ row.IsForced := by
      rintro (empty | null)
      · exact forcedName_ne_empty number (value ▸ empty)
      · exact forcedName_ne_null number (value ▸ null)
    have given : forcedName number ∈ ((namedRows 0 records).filter (·.2.IsForced)).map Prod.fst := by
      rw [forced_names]
      exact List.mem_map_of_mem (List.mem_range'_1.2 (by omega))
    obtain ⟨one, forced, same⟩ := List.mem_map.1 given
    obtain ⟨listed, isForced⟩ := List.mem_filter.1 forced
    obtain ⟨name, there⟩ := exists_mem_namedRows 0 member
    have own := name_of_named there named
    exact unshared one listed (of_decide_eq_true isForced) (name, row) there named (own.trans (value.trans same.symm))
  · intro free one listed isForced other there named same
    obtain ⟨number, positive, within, name⟩ := name_of_forced listed isForced
    refine free other.2 (mem_of_mem_namedRows there) number positive (by omega) ?_
    rw [← name_of_named there named, same, name]

/-- Every forced instance that a lookup can find is linked, or the one that another row has put in its
place. Two forced rows never share a name. -/
theorem forced_instances_linked
    (resolved : (resolve store lookup file arch sku?).run.run start = (.ok platform, between))
    (filled : FilledFrom store catalog)
    (linked : (platform.linkLibraries store (Catalog.module store) module).run.run catalog =
      (.ok libraries, after)) :
    (∀ named ∈ namedRows 0 (sharedRows store file arch), named.2.IsForced →
        named.2.Reaches arch module.value.type → module.value.type ≠ .userDefined →
        ∃ library ∈ libraries, platform.chooseInstance? module.value named.1 none = some library.value.file ∧
          (SharedFree store file arch module.value.type named.1 →
            OwnFree store file arch module.value.file named.1 →
            library.value.file = .ofText (named.2.value 1))) ∧
      (∀ own ∈ componentRows store file arch, .ofText (own.1.value 0) = module.value.file →
        ∀ named ∈ own.2, named.2.IsForced →
        ∃ library ∈ libraries, platform.chooseInstance? module.value named.1 none = some library.value.file ∧
          (OwnFree store file arch module.value.file named.1 →
            library.value.file = .ofText (named.2.value 1))) ∧
      let all := namedRows 0 (allRows store file arch)
      ((all.filter (·.2.IsForced)).map Prod.fst).Nodup ∧
        ((∀ one ∈ all, one.2.IsForced → ∀ other ∈ all, ¬ other.2.IsForced → other.1 ≠ one.1) ↔
          ∀ row ∈ allRows store file arch, ∀ number, 0 < number →
            number ≤ forcedCount (allRows store file arch) → row.value 0 ≠ forcedName number) := by
  have read := ends_resolve store lookup file arch sku? start platform between resolved
  obtain ⟨filledAfter, bound, links⟩ := ends_linkLibraries filled platform module libraries after linked
  refine ⟨fun named member isForced reaches type => ?_, fun own listed here named member isForced => ?_,
    nodup_forced_names 0 _, forced_names_unshared_iff _⟩
  · exact read.shared_forced_linked links filledAfter member isForced reaches type
  · exact read.own_forced_linked links filledAfter listed here member isForced

def forcingStore (libraryClass : String) : RecordStore :=
  let library (name : String) : List (Section × Record) := [
    (.defines, { values := ["INF_VERSION", "0x00010005"] }),
    (.defines, { values := ["BASE_NAME", name] }),
    (.defines, { values := ["MODULE_TYPE", "BASE"] }),
    (.defines, { values := ["LIBRARY_CLASS", name] })]
  let platform : List (Section × Record) := [
    (.defines, { values := ["PLATFORM_NAME", "P"] }),
    (.defines, { values := ["PLATFORM_GUID", "G"] }),
    (.libraryClasses, { values := ["NULL", "Shared.inf"] }),
    (.libraryClasses, { values := [libraryClass, "Other.inf"] }),
    (.components, { values := ["App.inf"], id := 7 }),
    (.libraryClasses, { values := ["NULL", "Own.inf"], owner? := some 7 })]
  { files := .ofList [(.ofText "P.dsc", platform), (.ofText "Shared.inf", library "Shared"),
      (.ofText "Other.inf", library "Other"), (.ofText "Own.inf", library "Own")] }

def forcedApp : Shared Module where
  serial := 0
  value := {
    file := .ofText "App.inf"
    arch := "X64"
    type := .uefiApplication
    buildType := "UEFI_APPLICATION" }

def forcedLibraries (store : RecordStore) : Option (Option (List String)) :=
  ((resolve store (Catalog.module store) (.ofText "P.dsc") "X64" none).run.run {}).1.toOption.map
    fun platform => ((platform.linkLibraries store (Catalog.module store) forcedApp).run.run
      {}).1.toOption.map fun libraries => libraries.map (·.value.file.text)

theorem forced_instances_linked_forcingStore :
    let store := forcingStore "OtherLib"
    ∃ platform between libraries after,
      (resolve store (Catalog.module store) (.ofText "P.dsc") "X64" none).run.run {} = (.ok platform, between) ∧
        (platform.linkLibraries store (Catalog.module store) forcedApp).run.run {} = (.ok libraries, after) ∧
        (∃ library ∈ libraries, library.value.file = .ofText "Shared.inf") ∧
        ∃ library ∈ libraries, library.value.file = .ofText "Own.inf" := by
  intro store
  have shown : forcedLibraries store = some (some ["Shared.inf", "Own.inf"]) := by decide +kernel
  obtain ⟨platform, between, resolved, shown⟩ := BuildStep.exists_of_toOption shown
  obtain ⟨libraries, after, linked, -⟩ := BuildStep.exists_of_toOption shown
  obtain ⟨shared, own, -⟩ := forced_instances_linked resolved FilledFrom.empty linked
  refine ⟨platform, between, libraries, after, resolved, linked, ?_, ?_⟩
  · obtain ⟨library, member, -, same⟩ := shared ("NULL1", { values := ["NULL", "Shared.inf"] })
      (by decide +kernel) (by decide) (by decide) (by decide)
    exact ⟨library, member, same (by decide +kernel) (by decide +kernel)⟩
  · obtain ⟨library, member, -, same⟩ := own
      ({ values := ["App.inf"], id := 7 }, [("NULL2", { values := ["NULL", "Own.inf"], owner? := some 7 })])
      (by decide +kernel) (by decide +kernel) ("NULL2", { values := ["NULL", "Own.inf"], owner? := some 7 })
      (by decide) (by decide)
    exact ⟨library, member, same (by decide +kernel)⟩

/-- A row that names a numbered class takes the place of the forced instance with that number. -/
theorem forcedLibraries_numberedClass :
    let store := forcingStore "NULL1"
    let rows := namedRows 0 (sharedRows store (.ofText "P.dsc") "X64")
    rows = [("NULL1", { values := ["NULL", "Shared.inf"] }), ("NULL1", { values := ["NULL1", "Other.inf"] })] ∧
      (∀ named ∈ rows, named.2.Reaches "X64" .uefiApplication) ∧
      forcedLibraries store = some (some ["Other.inf", "Own.inf"]) := by
  decide +kernel

end Platforms

end UefiBuild.Platform
