import UefiBuild.Library.Binding
import UefiBuild.Proofs.Catalog.Filled
import UefiBuild.Proofs.Library.ConstructorOrder

namespace UefiBuild

open BuildStep (Ends)
open Catalog (FilledFrom Follows)

/-- A class that names module types serves those that some of its words are read as, any other class serves
every type. -/
theorem LibraryClass.supports_ofText_iff (value : String) (type : ModuleType) :
    (LibraryClass.ofText value).supports type ↔
      (Text.valueList '|' value).getD 1 "" = "" ∨
        ∃ word ∈ Text.words ((Text.valueList '|' value).getD 1 ""),
          ModuleType.ofText? (Text.upper word) = some type := by
  rw [supports, decide_eq_true_eq, ofText]
  dsimp only
  split
  · rename_i blank
    exact iff_of_true type.mem_all (.inl blank)
  · rename_i listed
    rw [or_iff_right listed]
    simp only [List.mem_filterMap, typeWords, mem_distinct, List.mem_map, exists_exists_and_eq_and]

namespace Platform

/-- A module consumes its own classes, and those of the instances of the classes it consumes. Each
consumer can suggest an instance. -/
inductive Consumed (platform : Platform) (module : Module) (bound : Table String (Shared Module)) :
    String → Option SourcePath → Prop
  | own {libraryClass suggested}
    (use : (platform.consumedClasses module).get? libraryClass = some suggested) :
    Consumed platform module bound libraryClass suggested
  | through {needed proposed library libraryClass suggested}
    (consumed : Consumed platform module bound needed proposed)
    (found : bound.get? needed = some library)
    (use : library.value.libraryClasses.get? libraryClass = some suggested) :
    Consumed platform module bound libraryClass suggested

/-- The instance of a class: the component's own choice, else the platform's for the type of the module,
else what a consumer suggests. One that is not forced declares that it serves the module. -/
structure IsInstance (platform : Platform) (module : Module) (catalog : Catalog)
    (bound : Table String (Shared Module)) (libraryClass : String) (library : Shared Module) : Prop where
  chosen : ∃ suggested file, platform.Consumed module bound libraryClass suggested ∧
    ((platform.components.get? module.file).bind (·.libraryClasses.get? libraryClass)).or
      ((platform.libraryInstance? libraryClass module.type).or suggested) = some file ∧
    catalog.modules.get? (file, platform.arch) = some library
  serves : isForcedClass libraryClass = false → ∃ first, library.value.provided.head? = some first ∧
    (module.type = .userDefined ∨ first.supports module.type)

structure Links (platform : Platform) (module : Module) (catalog : Catalog)
    (bound : Table String (Shared Module)) (libraries : List (Shared Module)) : Prop where
  classes : ∀ libraryClass,
    libraryClass ∈ bound.keys ↔ ∃ suggested, platform.Consumed module bound libraryClass suggested
  instances : ∀ libraryClass library, bound.get? libraryClass = some library →
    platform.IsInstance module catalog bound libraryClass library
  exact : ∀ library, library ∈ libraries ↔ ∃ libraryClass, bound.get? libraryClass = some library
  once : (libraries.map (·.value.file)).Nodup

variable {platform : Platform} {module : Module} {catalog after : Catalog}
  {bound later : Table String (Shared Module)}

theorem Consumed.mono
    (grown : ∀ libraryClass library, bound.get? libraryClass = some library →
      later.get? libraryClass = some library) {libraryClass : String} {suggested : Option SourcePath}
    (consumed : platform.Consumed module bound libraryClass suggested) :
    platform.Consumed module later libraryClass suggested := by
  induction consumed with
  | own use => exact .own use
  | through _ found use ih => exact .through ih (grown _ _ found) use

theorem Consumed.of_insert {libraryClass other : String} {library : Shared Module}
    {proposed : Option SourcePath}
    (known : ∀ needed library, bound.get? needed = some library →
      ∃ suggested, platform.Consumed module bound needed suggested)
    (consumed : platform.Consumed module (bound.insert libraryClass library) other proposed) :
    platform.Consumed module bound other proposed ∨
      library.value.libraryClasses.get? other = some proposed := by
  cases consumed with
  | own use => exact .inl (.own use)
  | through _ found use =>
    rw [Table.get?_insert] at found
    split at found
    · obtain rfl := Option.some.inj found
      exact .inr use
    · obtain ⟨_, needed⟩ := known _ _ found
      exact .inl (.through needed found use)

theorem IsInstance.mono
    (grown : ∀ libraryClass library, bound.get? libraryClass = some library →
      later.get? libraryClass = some library)
    (kept : ∀ key module, catalog.modules.get? key = some module → after.modules.get? key = some module)
    {libraryClass : String} {library : Shared Module}
    (isInstance : platform.IsInstance module catalog bound libraryClass library) :
    platform.IsInstance module after later libraryClass library := by
  obtain ⟨suggested, file, consumed, chosen, found⟩ := isInstance.chosen
  exact ⟨⟨suggested, file, consumed.mono grown, chosen, kept _ _ found⟩, isInstance.serves⟩

theorem IsInstance.readFrom {store : RecordStore} (filled : FilledFrom store catalog)
    {libraryClass : String} {library : Shared Module}
    (isInstance : platform.IsInstance module catalog bound libraryClass library) :
    library.value.ReadFrom store library.value.file platform.arch ∧
      catalog.modules.get? (library.value.file, platform.arch) = some library := by
  obtain ⟨_, file, -, -, found⟩ := isInstance.chosen
  have read := filled.read _ _ found
  rw [read.file_eq]
  exact ⟨read, found⟩

end Platform

namespace RecordStore

def firstValues (store : RecordStore) : List String :=
  store.files.values.flatten.map fun row => row.2.value 0

theorem length_firstValues (store : RecordStore) : store.firstValues.length = store.rowCount :=
  List.length_map _

theorem value_mem_firstValues {store : RecordStore} {file : SourcePath} {place : Section}
    {arch? : Option String} {owner? : Option Nat} {record : Record}
    (listed : record ∈ store.query file place arch? owner?) : record.value 0 ∈ store.firstValues :=
  List.mem_map.2 ⟨(place, record), mem_values_of_query listed, rfl⟩

end RecordStore

theorem Module.ReadFrom.mem_firstValues {store : RecordStore} {file : SourcePath} {arch : String}
    {module : Module} (read : module.ReadFrom store file arch) {libraryClass : String}
    (used : libraryClass ∈ module.libraryClasses.keys) : libraryClass ∈ store.firstValues := by
  rw [read.libraryClasses_eq, usedClasses, Table.keys_ofList, mem_distinct, List.map_map] at used
  obtain ⟨record, listed, rfl⟩ := List.mem_map.1 used
  exact RecordStore.value_mem_firstValues listed

namespace LinkSearch

/-- The graph and the table of a search hold certain libraries, each under its file. -/
structure Holds (search : LinkSearch) (linked : Shared Module → Prop) : Prop where
  nodes : ∀ library, linked library → library.value.file ∈ search.graph.nodes
  known : ∀ file ∈ search.graph.nodes, (search.libraries.get? file).isSome
  linked : ∀ file library, search.libraries.get? file = some library →
    linked library ∧ library.value.file = file

section Holds

variable {search : LinkSearch} {linked : Shared Module → Prop} {library consumer : Shared Module}

theorem Holds.congr (holds : search.Holds linked) {other : Shared Module → Prop}
    (same : ∀ library, linked library ↔ other library) : search.Holds other where
  nodes library links := holds.nodes library ((same library).2 links)
  known := holds.known
  linked file library found := by
    obtain ⟨links, named⟩ := holds.linked file library found
    exact ⟨(same library).1 links, named⟩

theorem Holds.addLibrary (holds : search.Holds linked) (library : Shared Module) :
    (search.addLibrary library).Holds fun one => linked one ∨ one = library where
  nodes one links := by
    rcases links with old | rfl
    · exact LinkGraph.mem_addNode.2 (.inl (holds.nodes one old))
    · exact LinkGraph.mem_addNode.2 (.inr rfl)
  known file node := by
    rw [LinkSearch.addLibrary, Table.get?_update]
    split
    · rfl
    · rename_i other
      exact holds.known file ((LinkGraph.mem_addNode.1 node).resolve_right other)
  linked file one found := by
    rw [LinkSearch.addLibrary, Table.get?_update] at found
    split at found
    · rename_i same
      obtain rfl := Option.some.inj found
      cases present : search.libraries.get? library.value.file with
      | none => exact ⟨.inr rfl, same.symm⟩
      | some old =>
        obtain ⟨links, named⟩ := holds.linked _ old present
        exact ⟨.inl links, named.trans same.symm⟩
    · obtain ⟨links, named⟩ := holds.linked file one found
      exact ⟨.inl links, named⟩

theorem Holds.addUse (holds : search.Holds linked) {module : Shared Module}
    (consumes : consumer.serial = module.serial ∨ linked consumer) (library : Shared Module) :
    (search.addUse module consumer library).Holds fun one => linked one ∨ one = library := by
  have first := holds.addLibrary library
  unfold LinkSearch.addUse
  dsimp only
  split
  · exact first
  · rename_i other
    have held := consumes.resolve_left other
    have both : ((search.addLibrary library).addLibrary consumer).Holds fun one =>
        linked one ∨ one = library := by
      refine (first.addLibrary consumer).congr fun one => ⟨?_, .inl⟩
      rintro (links | rfl)
      · exact links
      · exact .inl held
    exact ⟨both.nodes, both.known, both.linked⟩

@[simp] theorem bound_addUse (search : LinkSearch) (module consumer library : Shared Module) :
    (search.addUse module consumer library).bound = search.bound := by
  unfold addUse
  dsimp only
  split <;> rfl

@[simp] theorem frontier_addUse (search : LinkSearch) (module consumer library : Shared Module) :
    (search.addUse module consumer library).frontier = search.frontier := by
  unfold addUse
  dsimp only
  split <;> rfl

end Holds

def IsBound (search : LinkSearch) (library : Shared Module) : Prop :=
  ∃ libraryClass, search.bound.get? libraryClass = some library

@[simp] theorem isBound_addUse {search : LinkSearch} {module consumer library one : Shared Module} :
    (search.addUse module consumer library).IsBound one ↔ search.IsBound one := by
  rw [IsBound, bound_addUse, IsBound]

def waiting (search : LinkSearch) (uses : List (String × Option SourcePath)) :
    List (String × Option SourcePath) := uses ++ search.frontier.flatMap (·.2.entries)

def nameable (store : RecordStore) (platform : Platform) (module : Module) : List String :=
  (platform.consumedClasses module).keys ++ store.firstValues

theorem Consumed.mem_nameable {store : RecordStore} {platform : Platform} {module : Module}
    {bound : Table String (Shared Module)} {libraryClass : String} {suggested : Option SourcePath}
    (read : ∀ needed library, bound.get? needed = some library →
      library.value.ReadFrom store library.value.file platform.arch)
    (consumed : platform.Consumed module bound libraryClass suggested) :
    libraryClass ∈ nameable store platform module := by
  cases consumed with
  | own use => exact List.mem_append_left _ (Table.mem_keys.2 (by simp [use]))
  | through _ found use =>
    exact List.mem_append_right _ ((read _ _ found).mem_firstValues (Table.mem_keys.2 (by simp [use])))

/-- How far a search has come: each class that is bound or waits is consumed, and each class that is
consumed is bound or waits. -/
structure Searching (store : RecordStore) (platform : Platform) (module : Shared Module) (room : Nat)
    (uses : List (String × Option SourcePath)) (search : LinkSearch) (catalog : Catalog) : Prop where
  filled : FilledFrom store catalog
  instances : ∀ libraryClass library, search.bound.get? libraryClass = some library →
    platform.IsInstance module.value catalog search.bound libraryClass library
  consumed : ∀ libraryClass suggested, (libraryClass, suggested) ∈ search.waiting uses →
    platform.Consumed module.value search.bound libraryClass suggested
  closed : ∀ libraryClass suggested, platform.Consumed module.value search.bound libraryClass suggested →
    libraryClass ∈ search.bound.keys ∨ (libraryClass, suggested) ∈ search.waiting uses
  consumers : ∀ entry ∈ search.frontier, entry.1.serial = module.serial ∨ search.IsBound entry.1
  holds : search.Holds search.IsBound
  fits : search.frontier.length + (nameable store platform module.value).length <
    room + search.bound.size

section Searching

variable {store : RecordStore} {platform : Platform} {module consumer library : Shared Module}
  {room : Nat} {libraryClass : String} {suggested : Option SourcePath}
  {uses : List (String × Option SourcePath)} {search : LinkSearch} {catalog after : Catalog}

theorem Searching.pop {classes : ClassUses} {others : List (Shared Module × ClassUses)}
    (searching : Searching store platform module (room + 1) [] search catalog)
    (next : search.frontier = (consumer, classes) :: others) :
    Searching store platform module room classes.entries { search with frontier := others } catalog := by
  have same : { search with frontier := others }.waiting classes.entries = search.waiting [] := by
    simp [waiting, next]
  have fits := searching.fits
  rw [next, List.length_cons] at fits
  refine { filled := searching.filled, instances := searching.instances, consumed := same ▸ searching.consumed
           closed := same ▸ searching.closed, consumers := ?_, holds := ?_, fits := ?_ }
  · exact fun entry member => searching.consumers entry (by simp [next, member])
  · exact ⟨searching.holds.nodes, searching.holds.known, searching.holds.linked⟩
  · dsimp only
    omega

theorem Searching.skip
    (searching : Searching store platform module room ((libraryClass, suggested) :: uses) search catalog)
    (known : search.bound.get? libraryClass = some library) :
    Searching store platform module room uses search catalog where
  filled := searching.filled
  instances := searching.instances
  consumed other proposed waits := searching.consumed other proposed (List.mem_cons_of_mem _ waits)
  closed other proposed needed := by
    have closed := searching.closed other proposed needed
    simp only [waiting, List.cons_append, List.mem_cons] at closed
    rcases closed with found | same | waits
    · exact .inl found
    · refine .inl (Table.mem_keys.2 ?_)
      rw [(Prod.mk.inj same).1, known]
      rfl
    · exact .inr waits
  consumers := searching.consumers
  holds := searching.holds
  fits := searching.fits

theorem Searching.addUse (searching : Searching store platform module room uses search catalog)
    (links : search.IsBound library)
    (consumes : consumer.serial = module.serial ∨ search.IsBound consumer) :
    Searching store platform module room uses (search.addUse module consumer library) catalog where
  filled := searching.filled
  instances := by simpa using searching.instances
  consumed := by simpa [waiting] using searching.consumed
  closed := by simpa [waiting] using searching.closed
  consumers := by simpa using searching.consumers
  holds := by
    refine (searching.holds.addUse consumes library).congr fun one => ?_
    rw [isBound_addUse]
    refine ⟨fun held => held.elim id ?_, .inl⟩
    rintro rfl
    exact links
  fits := by simpa using searching.fits

def bindTo (search : LinkSearch) (libraryClass : String) (library : Shared Module) : LinkSearch :=
  { search with
    bound := search.bound.insert libraryClass library
    frontier := (library, library.value.libraryClasses) :: search.frontier }

theorem supports_eq_true {library : Module} {type : ModuleType} (serves : supports library type = true) :
    ∃ first, library.provided.head? = some first ∧ (type = .userDefined ∨ first.supports type) := by
  unfold supports at serves
  cases found : library.provided.head? with
  | none => simp [found] at serves
  | some first => exact ⟨first, rfl, by simpa [found] using serves⟩

theorem ends_bind (filled : FilledFrom store catalog) (libraryClass : String)
    (suggested : Option SourcePath) :
    Ends (bind (Catalog.module store) platform module consumer search libraryClass suggested) catalog
      fun (next, library) after => next = search.bindTo libraryClass library ∧
        FilledFrom store after ∧ Follows store catalog after ∧
        (∃ file, platform.chooseInstance? module.value libraryClass suggested = some file ∧
          after.modules.get? (file, platform.arch) = some library) ∧
        (isForcedClass libraryClass = false → ∃ first, library.value.provided.head? = some first ∧
          (module.value.type = .userDefined ∨ first.supports module.value.type)) := by
  unfold bind
  split
  · rename_i file chosen
    rw [pure_bind]
    refine (filled.ends_module file platform.arch).bind ?_
    rintro library after ⟨filled, follows, found⟩
    split
    · exact .throw _
    · rename_i fits
      refine .pure ⟨rfl, filled, follows, ⟨file, chosen, found⟩, fun asked => supports_eq_true ?_⟩
      simpa [asked] using fits
  · exact .throw _

theorem mem_waiting_bindTo {other : String} {proposed : Option SourcePath} :
    (other, proposed) ∈ (search.bindTo libraryClass library).waiting uses ↔
      (other, proposed) ∈ search.waiting uses ∨ library.value.libraryClasses.get? other = some proposed := by
  simp only [waiting, bindTo, List.flatMap_cons, List.mem_append, Table.mem_entries]
  tauto

theorem isBound_bindTo (fresh : search.bound.get? libraryClass = none) {one : Shared Module} :
    (search.bindTo libraryClass library).IsBound one ↔ search.IsBound one ∨ one = library := by
  constructor
  · rintro ⟨other, bound⟩
    rw [bindTo, Table.get?_insert] at bound
    split at bound
    · exact .inr (Option.some.inj bound).symm
    · exact .inl ⟨other, bound⟩
  · rintro (⟨other, bound⟩ | rfl)
    · exact ⟨other, Table.get?_insert_of_absent fresh _ bound⟩
    · exact ⟨libraryClass, by rw [bindTo, Table.get?_insert, if_pos rfl]⟩

theorem get?_bindTo (fresh : search.bound.get? libraryClass = none) (library : Shared Module) :
    (search.bindTo libraryClass library).bound.get? libraryClass = some library ∧
      ∀ other one, search.bound.get? other = some one →
        (search.bindTo libraryClass library).bound.get? other = some one := by
  refine ⟨?_, fun _ _ => Table.get?_insert_of_absent fresh library⟩
  rw [bindTo, Table.get?_insert, if_pos rfl]

theorem Searching.closed_bindTo
    (searching : Searching store platform module room ((libraryClass, suggested) :: uses) search catalog)
    (fresh : search.bound.get? libraryClass = none) {other : String} {proposed : Option SourcePath}
    (consumed : platform.Consumed module.value (search.bindTo libraryClass library).bound other proposed) :
    other ∈ (search.bindTo libraryClass library).bound.keys ∨
      (other, proposed) ∈ (search.bindTo libraryClass library).waiting uses := by
  obtain ⟨here, grown⟩ := get?_bindTo fresh library
  have known : ∀ needed library, search.bound.get? needed = some library →
      ∃ suggested, platform.Consumed module.value search.bound needed suggested := by
    intro needed library bound
    obtain ⟨suggested, _, consumed, -⟩ := (searching.instances needed library bound).chosen
    exact ⟨suggested, consumed⟩
  rw [Table.mem_keys]
  rcases consumed.of_insert known with old | new
  · rcases searching.closed other proposed old with bound | waits
    · obtain ⟨one, bound⟩ := Option.isSome_iff_exists.1 (Table.mem_keys.1 bound)
      exact .inl (by simp [grown other one bound])
    · rcases List.mem_cons.1 waits with same | later
      · exact .inl (by simp [(Prod.mk.inj same).1, here])
      · exact .inr (mem_waiting_bindTo.2 (.inl later))
  · exact .inr (mem_waiting_bindTo.2 (.inr new))

theorem Searching.useNew
    (searching : Searching store platform module room ((libraryClass, suggested) :: uses) search catalog)
    (fresh : search.bound.get? libraryClass = none) (filled : FilledFrom store after)
    (follows : Follows store catalog after) {file : SourcePath}
    (chosen : platform.chooseInstance? module.value libraryClass suggested = some file)
    (found : after.modules.get? (file, platform.arch) = some library)
    (serves : isForcedClass libraryClass = false → ∃ first, library.value.provided.head? = some first ∧
      (module.value.type = .userDefined ∨ first.supports module.value.type))
    (consumes : consumer.serial = module.serial ∨ search.IsBound consumer) :
    Searching store platform module room uses
      ((search.bindTo libraryClass library).addUse module consumer library) after := by
  obtain ⟨here, grown⟩ := get?_bindTo fresh library
  have needed := searching.consumed libraryClass suggested (by simp [waiting])
  refine { filled, instances := ?_, consumed := ?_, closed := ?_, consumers := ?_, holds := ?_, fits := ?_ }
  · intro other one bound
    rw [bound_addUse] at bound ⊢
    by_cases same : other = libraryClass
    · subst same
      obtain rfl := Option.some.inj (here.symm.trans bound)
      exact ⟨⟨suggested, file, needed.mono grown, chosen, found⟩, serves⟩
    · rw [bindTo, Table.get?_insert, if_neg same] at bound
      exact (searching.instances other one bound).mono grown follows.kept
  · intro other proposed waits
    rw [waiting, frontier_addUse] at waits
    rw [bound_addUse]
    rcases mem_waiting_bindTo.1 waits with old | new
    · exact (searching.consumed other proposed (List.mem_cons_of_mem _ old)).mono grown
    · exact .through (needed.mono grown) here new
  · intro other proposed consumed
    rw [bound_addUse] at consumed ⊢
    rw [waiting, frontier_addUse]
    exact searching.closed_bindTo fresh consumed
  · intro entry member
    rw [isBound_addUse]
    rw [frontier_addUse, bindTo, List.mem_cons] at member
    rcases member with rfl | old
    · exact .inr ⟨libraryClass, here⟩
    · exact (searching.consumers entry old).imp_right fun bound => (isBound_bindTo fresh).2 (.inl bound)
  · have holds : (search.bindTo libraryClass library).Holds search.IsBound :=
      ⟨searching.holds.nodes, searching.holds.known, searching.holds.linked⟩
    refine (holds.addUse consumes library).congr fun one => ?_
    rw [isBound_addUse]
    exact (isBound_bindTo fresh).symm
  · have fits := searching.fits
    rw [frontier_addUse, bound_addUse, bindTo, List.length_cons, Table.size_insert_of_absent fresh]
    omega

theorem Searching.consume
    (searching : Searching store platform module room ((libraryClass, suggested) :: uses) search catalog)
    (consumes : consumer.serial = module.serial ∨ search.IsBound consumer) :
    Ends (consume (Catalog.module store) platform module consumer search (libraryClass, suggested)) catalog
      fun next after => Searching store platform module room uses next after ∧
        (consumer.serial = module.serial ∨ next.IsBound consumer) := by
  unfold LinkSearch.consume
  cases known : search.bound.get? libraryClass with
  | some library =>
    refine .pure ⟨(searching.skip known).addUse ⟨libraryClass, known⟩ consumes, ?_⟩
    rwa [isBound_addUse]
  | none =>
    refine (ends_bind searching.filled libraryClass suggested).bind ?_
    rintro ⟨_, library⟩ after ⟨rfl, filled, follows, ⟨file, chosen, found⟩, serves⟩
    refine .pure ⟨searching.useNew known filled follows chosen found serves consumes, ?_⟩
    rw [isBound_addUse]
    exact consumes.imp_right fun bound => (isBound_bindTo known).2 (.inl bound)

theorem Searching.turn {classes : ClassUses} {others : List (Shared Module × ClassUses)}
    (searching : Searching store platform module (room + 1) [] search catalog)
    (next : search.frontier = (consumer, classes) :: others) :
    Ends (classes.entries.foldlM (LinkSearch.consume (Catalog.module store) platform module consumer)
        { search with frontier := others }) catalog
      (Searching store platform module room []) := by
  have consumes := searching.consumers (consumer, classes) (by simp [next])
  let handling (uses : List (String × Option SourcePath)) (search : LinkSearch) (catalog : Catalog) :=
    Searching store platform module room uses search catalog ∧
      (consumer.serial = module.serial ∨ search.IsBound consumer)
  have first : handling classes.entries { search with frontier := others } catalog :=
    ⟨searching.pop next, consumes⟩
  refine (Ends.foldlM first fun use rest search catalog ⟨searching, consumes⟩ => ?_).mono
    fun _ _ => And.left
  exact searching.consume consumes

theorem Searching.run (searching : Searching store platform module room [] search catalog) :
    Ends (run (Catalog.module store) platform module room search) catalog fun last after =>
      last.frontier = [] ∧ ∃ left, Searching store platform module left [] last after := by
  induction room generalizing search catalog with
  | zero => exact .throw _
  | succ room ih =>
    unfold LinkSearch.run
    split
    · rename_i done
      exact .pure ⟨done, room + 1, searching⟩
    · rename_i consumer classes others next
      exact (searching.turn next).bind fun _ _ => ih

/-- Only classes that can come up are bound, so a search that goes on has room left. -/
theorem Searching.room_ne_zero (searching : Searching store platform module room [] search catalog) :
    room ≠ 0 := by
  rintro rfl
  have listed : search.bound.keys ⊆ nameable store platform module.value := by
    intro libraryClass known
    obtain ⟨library, found⟩ := Option.isSome_iff_exists.1 (Table.mem_keys.1 known)
    obtain ⟨_, _, consumed, -⟩ := (searching.instances libraryClass library found).chosen
    exact Consumed.mem_nameable (fun _ _ bound =>
      ((searching.instances _ _ bound).readFrom searching.filled).1) consumed
  have bounded := (search.bound.nodup_keys.subperm listed).length_le
  have fits := searching.fits
  rw [← Table.length_keys, Table.keys] at fits
  omega

def runOr (stuck : LinkSearch → Resolve LinkSearch) (lookup : Lookup Module) (platform : Platform)
    (module : Shared Module) : Nat → LinkSearch → Resolve LinkSearch
  | 0, search => stuck search
  | room + 1, search =>
    match search.frontier with
    | [] => return search
    | (consumer, classes) :: others => do
      let search ← classes.entries.foldlM (consume lookup platform module consumer)
        { search with frontier := others }
      runOr stuck lookup platform module room search

theorem Searching.run_eq_runOr (searching : Searching store platform module room [] search catalog)
    (stuck : LinkSearch → Resolve LinkSearch) :
    (LinkSearch.run (Catalog.module store) platform module room search).run.run catalog =
      (runOr stuck (Catalog.module store) platform module room search).run.run catalog := by
  induction room generalizing search catalog with
  | zero => exact absurd rfl searching.room_ne_zero
  | succ room ih =>
    unfold LinkSearch.run runOr
    cases next : search.frontier with
    | nil => rfl
    | cons entry others => exact (searching.turn next).run_bind_congr fun _ _ => ih

theorem map_file_filterMap {libraries : Table SourcePath (Shared Module)} {files : List SourcePath}
    (named : ∀ file ∈ files, ∃ library, libraries.get? file = some library ∧ library.value.file = file) :
    (files.filterMap libraries.get?).map (·.value.file) = files := by
  induction files with
  | nil => rfl
  | cons file rest ih =>
    obtain ⟨library, found, same⟩ := named file (by simp)
    rw [List.filterMap_cons_some found, List.map_cons, same,
      ih fun other member => named other (List.mem_cons_of_mem file member)]

theorem Searching.links (searching : Searching store platform module room [] search catalog)
    (done : search.frontier = []) {libraries : List (Shared Module)}
    (ok : search.ordered platform = .ok libraries) :
    platform.Links module.value catalog search.bound libraries := by
  have waiting : search.waiting [] = [] := by simp [LinkSearch.waiting, done]
  unfold ordered at ok
  split at ok
  · cases ok
  rename_i files sorted
  obtain rfl := Except.ok.inj ok
  obtain ⟨distinct, complete⟩ := LinkGraph.perm_of_sort_eq_ok (LinkGraph.constructorOrder_eq_ok sorted)
  have node : ∀ file, file ∈ files ↔ file ∈ search.graph.nodes := fun file => by
    rw [← complete file, List.mem_reverse]
  refine { classes := ?_, instances := searching.instances, exact := ?_, once := ?_ }
  · intro libraryClass
    constructor
    · intro known
      obtain ⟨library, found⟩ := Option.isSome_iff_exists.1 (Table.mem_keys.1 known)
      obtain ⟨suggested, _, consumed, -⟩ := (searching.instances libraryClass library found).chosen
      exact ⟨suggested, consumed⟩
    · rintro ⟨suggested, consumed⟩
      exact (searching.closed libraryClass suggested consumed).resolve_right (by simp [waiting])
  · intro library
    rw [List.mem_filterMap]
    constructor
    · rintro ⟨file, -, found⟩
      exact (searching.holds.linked file library found).1
    · rintro ⟨libraryClass, bound⟩
      have held := searching.holds.nodes library ⟨libraryClass, bound⟩
      obtain ⟨other, found⟩ := Option.isSome_iff_exists.1 (searching.holds.known _ held)
      obtain ⟨⟨otherClass, otherBound⟩, sameFile⟩ := searching.holds.linked _ other found
      -- The catalog keeps one module for a file, so the two are the same.
      have here := ((searching.instances _ _ bound).readFrom searching.filled).2
      have there := ((searching.instances _ _ otherBound).readFrom searching.filled).2
      rw [sameFile, here] at there
      obtain rfl := Option.some.inj there
      exact ⟨library.value.file, (node _).2 held, found⟩
  · have named : ∀ file ∈ files, ∃ library, search.libraries.get? file = some library ∧
        library.value.file = file := by
      intro file listed
      obtain ⟨library, found⟩ := Option.isSome_iff_exists.1 (searching.holds.known file ((node file).1 listed))
      exact ⟨library, found, (searching.holds.linked file library found).2⟩
    rw [map_file_filterMap named]
    exact List.nodup_reverse.1 distinct

theorem searching_start (filled : FilledFrom store catalog) (platform : Platform) (module : Shared Module) :
    Searching store platform module ((platform.consumedClasses module.value).size + store.rowCount + 2) []
      { frontier := [(module, platform.consumedClasses module.value)] } catalog := by
  refine { filled, instances := ?_, consumed := ?_, closed := ?_, consumers := ?_, holds := ?_, fits := ?_ }
  · intro _ _ found
    simp at found
  · intro libraryClass suggested waits
    exact .own (Table.mem_entries.1 (by simpa [waiting] using waits))
  · intro libraryClass suggested consumed
    cases consumed with
    | own use => exact .inr (by simpa [waiting] using Table.mem_entries.2 use)
    | through _ found _ => simp at found
  · intro entry member
    rw [List.mem_singleton.1 member]
    exact .inl rfl
  · refine ⟨fun library bound => ?_, by simp, fun _ _ found => by simp at found⟩
    obtain ⟨_, found⟩ := bound
    simp at found
  · simp only [nameable, List.length_append, Table.length_keys, RecordStore.length_firstValues,
      List.length_singleton]
    omega

end Searching

end LinkSearch

namespace Platform

variable {store : RecordStore} {catalog : Catalog}

theorem ends_linkLibraries (filled : FilledFrom store catalog) (platform : Platform)
    (module : Shared Module) :
    Ends (platform.linkLibraries store (Catalog.module store) module) catalog fun libraries after =>
      FilledFrom store after ∧ ∃ bound, platform.Links module.value after bound libraries := by
  refine (LinkSearch.searching_start filled platform module).run.bind ?_
  rintro last after ⟨done, left, searching⟩
  exact .ofChecked fun libraries ok => ⟨searching.filled, last.bound, searching.links done ok⟩

/-- A module is linked with the instances of the classes it consumes, and the search for them ends,
however the libraries depend on each other. -/
theorem linkLibraries_links (filled : FilledFrom store catalog) (platform : Platform)
    (module : Shared Module) :
    (∀ libraries after,
      (platform.linkLibraries store (Catalog.module store) module).run.run catalog =
          (.ok libraries, after) →
        ∃ bound, platform.Links module.value after bound libraries) ∧
      ∀ stuck : LinkSearch → Resolve LinkSearch,
        let classes := platform.consumedClasses module.value
        let room := classes.size + store.rowCount + 2
        let start : LinkSearch := { frontier := [(module, classes)] }
        (LinkSearch.run (Catalog.module store) platform module room start).run.run catalog =
          (LinkSearch.runOr stuck (Catalog.module store) platform module room start).run.run catalog := by
  constructor
  · intro libraries after ran
    exact (ends_linkLibraries filled platform module libraries after ran).2
  · exact (LinkSearch.searching_start filled platform module).run_eq_runOr

def ringStore : RecordStore :=
  let library (name other : String) : List (Section × Record) := [
    (.defines, { values := ["INF_VERSION", "0x00010005"] }),
    (.defines, { values := ["BASE_NAME", name] }),
    (.defines, { values := ["MODULE_TYPE", "BASE"] }),
    (.defines, { values := ["LIBRARY_CLASS", name ++ "|UEFI_APPLICATION"] }),
    (.libraryClasses, { values := [other, other ++ ".inf"] })]
  { files := .ofList [(.ofText "A.inf", library "A" "B"), (.ofText "B.inf", library "B" "A")] }

def ringPlatform : Platform where
  file := .ofText "P.dsc"
  arch := "X64"
  skuName := "DEFAULT"
  skuIds := ∅
  bindings := {
    instances := ({} : WildcardTable SourcePath).insert ["X64", "COMMON", "A"] (.ofText "A.inf") }

def ringApp : Shared Module where
  serial := 0
  value := {
    file := .ofText "App.inf"
    arch := "X64"
    type := .uefiApplication
    buildType := "UEFI_APPLICATION"
    libraryClasses := .ofList [("A", none)] }

theorem linkLibraries_ring :
    let served (library : Shared Module) : String × List (List ModuleType) :=
      (library.value.file.text, library.value.provided.map (·.supported))
    ∃ libraries after,
      (ringPlatform.linkLibraries ringStore (Catalog.module ringStore) ringApp).run.run {} =
          (.ok libraries, after) ∧
        libraries.map served = [("A.inf", [[.uefiApplication]]), ("B.inf", [[.uefiApplication]])] ∧
        ∃ bound, ringPlatform.Links ringApp.value after bound libraries := by
  intro served
  have shown : ((ringPlatform.linkLibraries ringStore (Catalog.module ringStore) ringApp).run.run
      {}).1.toOption.map (fun libraries => libraries.map served) =
      some [("A.inf", [[.uefiApplication]]), ("B.inf", [[.uefiApplication]])] := by decide +kernel
  rcases ran : (ringPlatform.linkLibraries ringStore (Catalog.module ringStore) ringApp).run.run {} with
    ⟨_ | libraries, after⟩
  · rw [ran] at shown
    cases shown
  · rw [ran] at shown
    have linked := (linkLibraries_links FilledFrom.empty ringPlatform ringApp).1 libraries after ran
    exact ⟨libraries, after, rfl, Option.some.inj shown, linked⟩

end Platform

end UefiBuild
