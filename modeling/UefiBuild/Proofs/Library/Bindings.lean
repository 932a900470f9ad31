import Mathlib.Data.Fintype.EquivFin
import UefiBuild.Catalog.Request
import UefiBuild.Proofs.Step
import UefiBuild.Proofs.Wildcard

namespace UefiBuild

open BuildStep (Ends)

namespace Record

/-- Rows without a class of their own force their instance on modules. -/
def IsForced (record : Record) : Prop := record.value 0 = "" ∨ record.value 0 = "NULL"

instance : DecidablePred IsForced := fun _ => inferInstanceAs (Decidable (_ ∨ _))

/-- Whether a lookup finds a row: it spells the architecture and the type of modules letter by letter, or
is for all of them. -/
def Reaches (record : Record) (arch : String) (type : ModuleType) : Prop :=
  (record.arch = arch ∨ record.arch = "COMMON") ∧ (record.scope = type.name ∨ record.scope = "COMMON")

instance (record : Record) (arch : String) (type : ModuleType) : Decidable (record.Reaches arch type) :=
  inferInstanceAs (Decidable (_ ∧ _))

/-- Whether a row is for modules of a type, however it writes the type. -/
def IsFor (record : Record) (type : ModuleType) : Prop :=
  record.scope = "COMMON" ∨ ModuleType.ofText? record.scope = some type

instance (record : Record) (type : ModuleType) : Decidable (record.IsFor type) :=
  inferInstanceAs (Decidable (_ ∨ _))

theorem Reaches.isFor {record : Record} {arch : String} {type : ModuleType}
    (reaches : record.Reaches arch type) : record.IsFor type := by
  refine reaches.2.symm.imp_right fun exact => ?_
  rw [exact]
  cases type <;> decide

end Record

namespace Platform

def forcedName (number : Nat) : String := s!"NULL{number}"

theorem toList_forcedName (number : Nat) :
    (forcedName number).toList = "NULL".toList ++ Nat.toDigits 10 number := by
  have shown : forcedName number = "NULL" ++ toString number := by
    rw [forcedName]
    rfl
  simp [shown]

theorem forcedName_injective : Function.Injective forcedName := by
  intro number other same
  have digits := congrArg String.toList same
  rw [toList_forcedName, toList_forcedName, List.append_cancel_left_eq] at digits
  have value := congrArg (Nat.ofDigitChars 10 · 0) digits
  rwa [Nat.ofDigitChars_ten_toDigits, Nat.ofDigitChars_ten_toDigits] at value

theorem forcedName_ne_null (number : Nat) : forcedName number ≠ "NULL" := by
  intro same
  have letters := congrArg String.toList same
  rw [toList_forcedName, List.append_right_eq_self] at letters
  exact Nat.toDigits_ne_nil letters

theorem forcedName_ne_empty (number : Nat) : forcedName number ≠ "" := by
  intro same
  have letters := congrArg String.toList same
  rw [toList_forcedName] at letters
  cases letters

def namedRows (forced : Nat) : List Record → List (String × Record)
  | [] => []
  | record :: rest =>
    ((bindingClass record forced).1, record) :: namedRows (bindingClass record forced).2 rest

def forcedCount (records : List Record) : Nat := records.countP (·.IsForced)

theorem bindingClass_of_forced {record : Record} (isForced : record.IsForced) (forced : Nat) :
    bindingClass record forced = (forcedName (forced + 1), forced + 1) := if_pos isForced

theorem bindingClass_of_named {record : Record} (named : ¬ record.IsForced) (forced : Nat) :
    bindingClass record forced = (record.value 0, forced) := if_neg named

section Rows

variable {name : String} {row : Record} {records : List Record} {forced : Nat}

theorem forcedCount_cons (record : Record) (rest : List Record) (forced : Nat) :
    forced + forcedCount (record :: rest) = (bindingClass record forced).2 + forcedCount rest := by
  by_cases isForced : record.IsForced
  · simp only [forcedCount, bindingClass_of_forced isForced, List.countP_cons, isForced, decide_true, if_true]
    omega
  · simp only [forcedCount, bindingClass_of_named isForced, List.countP_cons, isForced, decide_false]
    rfl

theorem namedRows_append (forced : Nat) (a b : List Record) :
    namedRows forced (a ++ b) = namedRows forced a ++ namedRows (forced + forcedCount a) b := by
  induction a generalizing forced with
  | nil => rfl
  | cons record rest ih => rw [List.cons_append, namedRows, ih, forcedCount_cons, namedRows, List.cons_append]

theorem map_snd_namedRows (forced : Nat) (records : List Record) :
    (namedRows forced records).map Prod.snd = records := by
  induction records generalizing forced with
  | nil => rfl
  | cons record rest ih => rw [namedRows, List.map_cons, ih]

theorem mem_of_mem_namedRows (member : (name, row) ∈ namedRows forced records) : row ∈ records :=
  map_snd_namedRows forced records ▸ List.mem_map_of_mem member

theorem exists_mem_namedRows (forced : Nat) (member : row ∈ records) :
    ∃ name, (name, row) ∈ namedRows forced records := by
  rw [← map_snd_namedRows forced records] at member
  obtain ⟨named, listed, rfl⟩ := List.mem_map.1 member
  exact ⟨named.1, listed⟩

theorem forced_names (forced : Nat) (records : List Record) :
    ((namedRows forced records).filter (·.2.IsForced)).map Prod.fst =
      (List.range' (forced + 1) (forcedCount records)).map forcedName := by
  induction records generalizing forced with
  | nil => rfl
  | cons record rest ih =>
    by_cases isForced : record.IsForced
    · have count : forcedCount (record :: rest) = forcedCount rest + 1 :=
        List.countP_cons_of_pos (decide_eq_true isForced)
      rw [namedRows, List.filter_cons_of_pos (by simpa using isForced), List.map_cons, ih, count,
        List.range'_succ, List.map_cons, bindingClass_of_forced isForced]
    · have count : forcedCount (record :: rest) = forcedCount rest :=
        List.countP_cons_of_neg (by simpa using isForced)
      rw [namedRows, List.filter_cons_of_neg (by simpa using isForced), ih, count,
        bindingClass_of_named isForced]

theorem name_of_forced (member : (name, row) ∈ namedRows forced records) (isForced : row.IsForced) :
    ∃ number, forced < number ∧ number ≤ forced + forcedCount records ∧ name = forcedName number := by
  have listed : name ∈ ((namedRows forced records).filter (·.2.IsForced)).map Prod.fst :=
    List.mem_map.2 ⟨_, List.mem_filter.2 ⟨member, decide_eq_true isForced⟩, rfl⟩
  rw [forced_names, List.mem_map] at listed
  obtain ⟨number, within, rfl⟩ := listed
  rw [List.mem_range'_1] at within
  exact ⟨number, by omega, by omega, rfl⟩

theorem name_of_named (member : (name, row) ∈ namedRows forced records) (named : ¬ row.IsForced) :
    name = row.value 0 := by
  induction records generalizing forced with
  | nil => cases member
  | cons record rest ih =>
    rcases List.mem_cons.1 member with same | later
    · obtain ⟨rfl, rfl⟩ := Prod.mk.inj same
      rw [bindingClass_of_named named]
    · exact ih later

theorem name_ne_null (member : (name, row) ∈ namedRows forced records) : name ≠ "NULL" := by
  by_cases isForced : row.IsForced
  · obtain ⟨number, -, -, rfl⟩ := name_of_forced member isForced
    exact forcedName_ne_null number
  · rw [name_of_named member isForced]
    exact fun null => isForced (.inr null)

end Rows

def boundRows (forced : Nat) (records : List Record) : List (List String × SourcePath) :=
  (namedRows forced records).map fun named =>
    ([named.2.arch, named.2.scope, named.1], .ofText (named.2.value 1))

theorem instanceFile_eq {file library : SourcePath} {record : Record} {index : Nat}
    (ok : instanceFile file record index = .ok library) : library = .ofText (record.value index) := by
  obtain ⟨_, -, ok⟩ := Checked.bind_eq_ok.1 ok
  exact (Checked.pure_eq_ok.1 ok).symm

theorem bindRow_eq {file : SourcePath} {record : Record} {start next : LibraryBindings × Nat}
    (ok : bindRow file start record = .ok next) :
    next = (start.1.bind record (bindingClass record start.2).1 (.ofText (record.value 1)),
      (bindingClass record start.2).2) := by
  obtain ⟨library, read, ok⟩ := Checked.bind_eq_ok.1 ok
  obtain rfl := instanceFile_eq read
  dsimp only at ok
  split at ok
  · cases ok
  · exact (Checked.pure_eq_ok.1 ok).symm

theorem foldlM_bindRow {file : SourcePath} {records : List Record} {start last : LibraryBindings × Nat}
    (ok : records.foldlM (bindRow file) start = .ok last) :
    last.1.instances = (boundRows start.2 records).foldl (fun t row => t.insert row.1 row.2) start.1.instances ∧
      last.1.classes = ((namedRows start.2 records).map Prod.fst).foldl addNew start.1.classes ∧
      last.2 = start.2 + forcedCount records := by
  -- Each row goes on from the number that the rows before it have reached.
  induction records generalizing start with
  | nil =>
    obtain rfl := Checked.pure_eq_ok.1 ok
    exact ⟨rfl, rfl, rfl⟩
  | cons record rest ih =>
    obtain ⟨next, first, others⟩ := Checked.bind_eq_ok.1 (List.foldlM_cons.symm.trans ok)
    obtain rfl := bindRow_eq first
    rw [forcedCount_cons]
    exact ih others

structure Binds (records : List Record) (bindings : LibraryBindings) : Prop where
  instances : bindings.instances = .filed "COMMON" (boundRows 0 records)
  classes : bindings.classes = distinct ((namedRows 0 records).map Prod.fst)

theorem binds_bindRows {file : SourcePath} {records : List Record} {last : LibraryBindings × Nat}
    (ok : records.foldlM (bindRow file) ({}, 0) = .ok last) :
    Binds records last.1 ∧ last.2 = forcedCount records := by
  obtain ⟨instances, classes, forced⟩ := foldlM_bindRow ok
  refine ⟨⟨instances, ?_⟩, forced.trans (Nat.zero_add _)⟩
  rw [classes, foldl_addNew]
  simp

variable {store : RecordStore} {lookup : Lookup Module} {file : SourcePath} {arch : String}
  {sku? : Option String} {start after : Catalog} {platform : Platform}

def sharedRows (store : RecordStore) (file : SourcePath) (arch : String) : List Record :=
  store.query file .libraryClasses (some arch) none

theorem ends_bindLegacy (lookup : Lookup Module) (file : SourcePath) (arch : String)
    {records : List Record} {bindings : LibraryBindings} (binds : Binds records bindings)
    (record : Record) (catalog : Catalog) :
    Ends (bindLegacy lookup file arch bindings record) catalog fun bindings _ => Binds records bindings :=
  Ends.any.bind fun _ _ _ => Ends.any.bind fun _ _ _ => .pure ⟨binds.instances, binds.classes⟩

structure BoundFrom (store : RecordStore) (file : SourcePath) (arch : String) (platform : Platform) : Prop where
  arch_eq : platform.arch = arch
  binds : Binds (sharedRows store file arch) platform.bindings
  components : ∃ files list, platform.components = list.components ∧
    (store.query file .components (some arch) none).foldlM (addComponent store file arch)
      { files, forced := forcedCount (sharedRows store file arch) } = .ok list

theorem ends_resolve (store : RecordStore) (lookup : Lookup Module) (file : SourcePath) (arch : String)
    (sku? : Option String) (start : Catalog) :
    Ends (resolve store lookup file arch sku?) start fun platform _ =>
      platform.BoundFrom store file arch := by
  let rows := sharedRows store file arch
  refine Ends.any.bind fun header _ _ => ?_
  refine Ends.any.bind fun skuIds _ _ => ?_
  have bound (catalog : Catalog) : Ends (.ofChecked (rows.foldlM (bindRow file) ({}, 0))) catalog
      fun bound _ => Binds rows bound.1 ∧ bound.2 = forcedCount rows :=
    .ofChecked fun _ => binds_bindRows
  refine (bound _).bind fun ⟨bindings, forced⟩ catalog ⟨binds, count⟩ => ?_
  -- Libraries of the older format add files and names, and leave the instances alone.
  let inv (_ : List Record) (bindings : LibraryBindings) (_ : Catalog) : Prop := Binds rows bindings
  have first : inv (store.query file .libraryInstances (some arch) none) bindings catalog := binds
  have legacy := Ends.foldlM first fun record _ _ catalog (binds : Binds rows _) =>
    ends_bindLegacy lookup file arch binds record catalog
  refine legacy.bind fun bindings _ binds => ?_
  have listed (catalog : Catalog) (start : ComponentList) :
      Ends (.ofChecked ((store.query file .components (some arch) none).foldlM
        (addComponent store file arch) start)) catalog fun list _ =>
        (store.query file .components (some arch) none).foldlM (addComponent store file arch) start = .ok list :=
    .ofChecked fun _ => id
  refine (listed _ _).bind fun list _ added => ?_
  refine Ends.any.bind fun pcds _ _ => ?_
  refine Ends.any.bind fun options _ _ => ?_
  exact .pure ⟨rfl, ⟨binds.instances, binds.classes⟩, bindings.files, list, rfl, count ▸ added⟩

section Instances

variable (bound : platform.BoundFrom store file arch)
include bound

theorem BoundFrom.libraryInstance?_eq (libraryClass : String) (type : ModuleType) :
    platform.libraryInstance? libraryClass type =
      (WildcardTable.filed "COMMON" (boundRows 0 (sharedRows store file arch))).resolve?
        [arch, type.name, libraryClass] := by
  rw [libraryInstance?, bound.binds.instances, bound.arch_eq]

theorem BoundFrom.isSome_libraryInstance? {libraryClass : String} {type : ModuleType} :
    (platform.libraryInstance? libraryClass type).isSome ↔
      ∃ named ∈ namedRows 0 (sharedRows store file arch), named.2.Reaches arch type ∧
        (named.1 = libraryClass ∨ named.1 = "COMMON") := by
  rw [bound.libraryInstance?_eq, WildcardTable.isSome_resolve?_filed, boundRows]
  simp [WildcardTable.Covers, Record.Reaches, and_assoc]

end Instances

def HasRow (rows : List Record) (libraryClass : String) (type : ModuleType) : Prop :=
  ∃ named ∈ namedRows 0 rows, named.1 = libraryClass ∧ named.2.IsFor type

instance (rows : List Record) (libraryClass : String) (type : ModuleType) :
    Decidable (HasRow rows libraryClass type) := inferInstanceAs (Decidable (∃ _ ∈ _, _))

/-- Every row has one of its class that a lookup finds, and no row that a lookup finds is for all
classes. -/
structure Spelled (rows : List Record) (arch : String) : Prop where
  reached : ∀ named ∈ namedRows 0 rows, named.1 ≠ "COMMON" → ∀ type, named.2.IsFor type →
    ∃ other ∈ namedRows 0 rows, other.1 = named.1 ∧ other.2.Reaches arch type
  open_unreached : ∀ named ∈ namedRows 0 rows, named.1 = "COMMON" → ∀ type, ¬ named.2.Reaches arch type

theorem BoundFrom.found_iff_hasRow_iff (bound : platform.BoundFrom store file arch) :
    (∀ libraryClass type, libraryClass ≠ "NULL" → libraryClass ≠ "COMMON" →
        ((platform.libraryInstance? libraryClass type).isSome ↔
          HasRow (sharedRows store file arch) libraryClass type)) ↔
      Spelled (sharedRows store file arch) arch := by
  simp only [bound.isSome_libraryInstance?]
  constructor
  · intro agree
    have closed : ∀ named ∈ namedRows 0 (sharedRows store file arch), named.1 = "COMMON" →
        ∀ type, ¬ named.2.Reaches arch type := by
      intro named member wild type reaches
      -- A row for all classes would bind one that has no row.
      obtain ⟨fresh, absent⟩ := Infinite.exists_notMem_finset
        ("NULL" :: "COMMON" :: (namedRows 0 (sharedRows store file arch)).map Prod.fst).toFinset
      simp only [List.mem_toFinset, List.mem_cons, not_or] at absent
      obtain ⟨other, listed, same, -⟩ :=
        (agree fresh type absent.1 absent.2.1).1 ⟨named, member, reaches, .inr wild⟩
      exact absent.2.2 (List.mem_map.2 ⟨other, listed, same⟩)
    refine ⟨fun named member ordinary type isFor => ?_, closed⟩
    obtain ⟨other, listed, reaches, same | wild⟩ :=
      (agree named.1 type (name_ne_null member) ordinary).2 ⟨named, member, rfl, isFor⟩
    · exact ⟨other, listed, same, reaches⟩
    · exact absurd reaches (closed other listed wild type)
  · intro spelled libraryClass type _ ordinary
    constructor
    · rintro ⟨named, member, reaches, same | wild⟩
      · exact ⟨named, member, same, reaches.isFor⟩
      · exact absurd reaches (spelled.open_unreached named member wild type)
    · rintro ⟨named, member, rfl, isFor⟩
      obtain ⟨other, listed, same, reaches⟩ := spelled.reached named member ordinary type isFor
      exact ⟨other, listed, reaches, .inl same⟩

/-- A platform binds a library class for a type of modules to the last instance that is filed for the most
specific pattern, and it binds those classes that rows name in a spelling that a lookup finds. -/
theorem libraryInstance?_of_resolve
    (resolved : (resolve store lookup file arch sku?).run.run start = (.ok platform, after)) :
    let rows := sharedRows store file arch
    (∀ libraryClass type library, platform.libraryInstance? libraryClass type = some library ↔
        ∃ pattern, WildcardTable.Decides "COMMON" (boundRows 0 rows) [arch, type.name, libraryClass] pattern ∧
          lastFiled? (boundRows 0 rows) pattern = some library) ∧
      (∀ libraryClass type, (platform.libraryInstance? libraryClass type).isSome ↔
        ∃ named ∈ namedRows 0 rows, named.2.Reaches arch type ∧
          (named.1 = libraryClass ∨ named.1 = "COMMON")) ∧
      ((∀ libraryClass type, libraryClass ≠ "NULL" → libraryClass ≠ "COMMON" →
          ((platform.libraryInstance? libraryClass type).isSome ↔ HasRow rows libraryClass type)) ↔
        Spelled rows arch) := by
  intro rows
  have bound := ends_resolve store lookup file arch sku? start platform after resolved
  refine ⟨fun libraryClass type library => ?_, fun libraryClass type => ?_, bound.found_iff_hasRow_iff⟩
  · rw [bound.libraryInstance?_eq, WildcardTable.resolve?_filed_eq_some_iff]
  · exact bound.isSome_libraryInstance?

def driverStore (scope : String) : RecordStore :=
  let rows : List (Section × Record) := [
    (.defines, { values := ["PLATFORM_NAME", "P"] }),
    (.defines, { values := ["PLATFORM_GUID", "G"] }),
    (.libraryClasses, { values := ["DebugLib", "Plain.inf"], arch := "X64" }),
    (.libraryClasses, { values := ["DebugLib", "Old.inf"], arch := "X64", scope }),
    (.libraryClasses, { values := ["DebugLib", "Driver.inf"], arch := "X64", scope }),
    (.libraryClasses, { values := ["TimerLib", "Timer.inf"], scope }),
    (.libraryClasses, { values := ["NULL", "Forced.inf"] })]
  rows.foldl (fun store row => (store.push (.ofText "P.dsc") row.1 row.2).1) {}

def driverInstances (store : RecordStore) (classes : List String) : Option (List (Option SourcePath)) :=
  ((resolve store (Catalog.module store) (.ofText "P.dsc") "X64" none).run.run {}).1.toOption.map
    fun platform => classes.map (platform.libraryInstance? · .dxeDriver)

theorem libraryInstance?_driverStore :
    let store := driverStore "DXE_DRIVER"
    let rows := sharedRows store (.ofText "P.dsc") "X64"
    ∃ platform after,
      (resolve store (Catalog.module store) (.ofText "P.dsc") "X64" none).run.run {} = (.ok platform, after) ∧
        ["DebugLib", "TimerLib", "NULL1", "NULL", "BaseLib"].map (platform.libraryInstance? · .dxeDriver) =
          [some (.ofText "Driver.inf"), some (.ofText "Timer.inf"), some (.ofText "Forced.inf"), none, none] ∧
        (∀ libraryClass type library, platform.libraryInstance? libraryClass type = some library ↔
          ∃ pattern, WildcardTable.Decides "COMMON" (boundRows 0 rows) ["X64", type.name, libraryClass] pattern ∧
            lastFiled? (boundRows 0 rows) pattern = some library) ∧
        ∀ libraryClass type, (platform.libraryInstance? libraryClass type).isSome ↔
          ∃ named ∈ namedRows 0 rows, named.2.Reaches "X64" type ∧
            (named.1 = libraryClass ∨ named.1 = "COMMON") := by
  intro store rows
  have shown : driverInstances store ["DebugLib", "TimerLib", "NULL1", "NULL", "BaseLib"] =
      some [some (.ofText "Driver.inf"), some (.ofText "Timer.inf"), some (.ofText "Forced.inf"), none, none] := by
    decide +kernel
  obtain ⟨platform, after, resolved, instances⟩ := BuildStep.exists_of_toOption shown
  obtain ⟨values, present, -⟩ := libraryInstance?_of_resolve resolved
  exact ⟨platform, after, resolved, instances, values, present⟩

/-- With its type in small letters a row is accepted, and never found. -/
theorem libraryInstance?_smallLetters :
    let rows := sharedRows (driverStore "dxe_driver") (.ofText "P.dsc") "X64"
    HasRow rows "TimerLib" .dxeDriver ∧ HasRow rows "DebugLib" .dxeDriver ∧
      driverInstances (driverStore "dxe_driver") ["TimerLib", "DebugLib"] =
        some [none, some (.ofText "Plain.inf")] := by
  decide +kernel

end Platform

end UefiBuild
