import Mathlib.Data.List.Perm.Subperm
import UefiBuild.Catalog.Request
import UefiBuild.Proofs.Step
import UefiBuild.Proofs.Text.Words

namespace UefiBuild

open BuildStep (Keeps)

structure Pcd.IsPlain (id : PcdId) (pcd : Pcd) : Prop where
  id_eq : pcd.id = id
  skus_eq : pcd.skus = ∅

theorem RecordStore.mem_query_iff {store : RecordStore} {file : SourcePath} {place : Section}
    {arch? : Option String} {owner? : Option Nat} {record : Record} :
    record ∈ store.query file place arch? owner? ↔
      (place, record) ∈ store.rows file ∧ record.owner? = owner? ∧ arch?.all record.appliesTo := by
  simp only [query, List.mem_filterMap, Option.ite_none_right_eq_some, Option.some.injEq]
  constructor
  · rintro ⟨⟨_, _⟩, member, ⟨rfl, fits⟩, rfl⟩
    exact ⟨member, fits⟩
  · rintro ⟨member, fits⟩
    exact ⟨(place, record), member, ⟨rfl, fits⟩, rfl⟩

theorem RecordStore.exists_rows_of_query {store : RecordStore} {file : SourcePath} {place : Section}
    {arch? : Option String} {owner? : Option Nat} {record : Record}
    (listed : record ∈ store.query file place arch? owner?) :
    ∃ rows, store.files.get? file = some rows ∧ (place, record) ∈ rows := by
  obtain ⟨member, -⟩ := mem_query_iff.1 listed
  rw [rows, Table.getD] at member
  cases found : store.files.get? file with
  | none => simp [found] at member
  | some rows =>
    rw [found, Option.getD_some] at member
    exact ⟨rows, rfl, member⟩

theorem RecordStore.mem_keys_of_query {store : RecordStore} {file : SourcePath} {place : Section}
    {arch? : Option String} {owner? : Option Nat} {record : Record}
    (listed : record ∈ store.query file place arch? owner?) : file ∈ store.files.keys := by
  obtain ⟨rows, found, -⟩ := exists_rows_of_query listed
  exact Table.mem_keys.2 (Option.isSome_iff_exists.2 ⟨rows, found⟩)

theorem RecordStore.mem_values_of_query {store : RecordStore} {file : SourcePath} {place : Section}
    {arch? : Option String} {owner? : Option Nat} {record : Record}
    (listed : record ∈ store.query file place arch? owner?) :
    (place, record) ∈ store.files.values.flatten := by
  obtain ⟨rows, found, member⟩ := exists_rows_of_query listed
  exact List.mem_flatten.2 ⟨rows, Table.mem_values.2 ⟨file, found⟩, member⟩

theorem RecordStore.length_le_fileCount {store : RecordStore} {files : List SourcePath}
    (distinct : files.Nodup) (known : files ⊆ store.files.keys) : files.length ≤ store.fileCount := by
  rw [fileCount, ← Table.length_keys]
  exact (distinct.subperm known).length_le

/-- A word of a dependency expression as it is read off a descriptor. Unless it is a name it stands for
itself. -/
structure DepexToken.IsRead (token : DepexToken) : Prop where
  solid : Text.IsSolid token.written
  value_eq : token.written ∈ Module.depexWords → token.value = token.written

namespace Module

def IsPlain (module : Module) : Prop := ∀ entry ∈ module.pcds.entries, entry.2.IsPlain entry.1

def headed (store : RecordStore) (file : SourcePath) (arch : String) : Checked Module := do
  let draft ← HeaderDraft.readDefines {} file (store.query file .defines (some arch) none)
  draft.finish file arch

/-- A module as its descriptor says for an architecture. -/
structure ReadFrom (store : RecordStore) (file : SourcePath) (arch : String) (module : Module) :
    Prop where
  file_eq : module.file = file
  arch_eq : module.arch = arch
  header : ∃ plain, headed store file arch = .ok plain ∧
    module.toModuleHeader = plain.toModuleHeader ∧ module.type = plain.type
  libraryClasses_eq :
    module.libraryClasses = usedClasses (store.query file .libraryClasses (some arch) none)
  plain : module.IsPlain

/-- A module that was resolved at some time, whatever other modules were found then. -/
def ResolvedFrom (store : RecordStore) (module : Module) : Prop :=
  ∃ lookup file arch catalog after, (resolve store lookup file arch).run.run catalog = (.ok module, after)

def IsDepexRead (module : Module) : Prop :=
  ∀ entry ∈ module.depex.entries.entries, ∀ token ∈ entry.2, token.IsRead

theorem ReadFrom.mem_files {store : RecordStore} {file : SourcePath} {arch : String} {module : Module}
    (read : module.ReadFrom store file arch) : file ∈ store.files.keys := by
  obtain ⟨plain, ok, -⟩ := read.header
  cases listed : store.query file .defines (some arch) none with
  | nil =>
    rw [headed, listed] at ok
    cases ok
  | cons record rest =>
    have member : record ∈ store.query file .defines (some arch) none := by simp [listed]
    exact RecordStore.mem_keys_of_query member

theorem ReadFrom.toModuleHeader_eq {store : RecordStore} {file : SourcePath} {arch : String}
    {module other : Module} (read : module.ReadFrom store file arch)
    (again : other.ReadFrom store file arch) : module.toModuleHeader = other.toModuleHeader := by
  obtain ⟨plain, ok, header, -⟩ := read.header
  obtain ⟨otherPlain, otherOk, otherHeader, -⟩ := again.header
  obtain rfl := Except.ok.inj (ok.symm.trans otherOk)
  exact header.trans otherHeader.symm

theorem file_arch_of_finish {draft : HeaderDraft} {file : SourcePath} {arch : String} {module : Module}
    (ok : draft.finish file arch = .ok module) : module.file = file ∧ module.arch = arch := by
  unfold HeaderDraft.finish at ok
  dsimp only at ok
  split at ok
  · cases ok
  · split at ok
    · split at ok
      · cases ok
      · obtain rfl := Checked.pure_eq_ok.1 ok
        exact ⟨rfl, rfl⟩
    · obtain ⟨type, -, ok⟩ := Checked.bind_eq_ok.1 ok
      obtain rfl := Checked.pure_eq_ok.1 ok
      exact ⟨rfl, rfl⟩

theorem isPlain_pcdFromPackages {packages : List Package} {part : PcdSection} {id : PcdId}
    {value : String} {file : SourcePath} {line : Nat} {pcd : Pcd}
    (ok : pcdFromPackages packages part id value file line = .ok pcd) : pcd.IsPlain id := by
  unfold pcdFromPackages at ok
  split at ok
  · split at ok
    · cases ok
    · obtain rfl := Except.ok.inj ok
      exact ⟨rfl, rfl⟩
  · split at ok <;> cases ok

theorem isPlain_pcdSections {store : RecordStore} {packages : List Package} {file : SourcePath}
    {arch : String} {guids : Table String String} {sections : Table String String × Table PcdId Pcd}
    (ok : pcdSections store packages file arch guids = .ok sections) :
    ∀ entry ∈ sections.2.entries, entry.2.IsPlain entry.1 := by
  let plain (sections : Table String String × Table PcdId Pcd) : Prop :=
    ∀ entry ∈ sections.2.entries, entry.2.IsPlain entry.1
  have empty : plain (guids, ∅) := fun _ member => nomatch member
  refine Checked.foldlM_induction ok empty fun part _ state next known step => ?_
  obtain ⟨spaces, _, step⟩ := Checked.bind_eq_ok.1 step
  obtain ⟨found, read, step⟩ := Checked.bind_eq_ok.1 step
  obtain rfl := Checked.pure_eq_ok.1 step
  intro entry member
  rcases Table.mem_insertAll member with old | new
  · exact known entry old
  · obtain ⟨⟨id, setting⟩, _, made⟩ := Checked.exists_of_mem_mapM read new
    obtain ⟨field, _, made⟩ := Checked.bind_eq_ok.1 made
    obtain ⟨pcd, resolved, made⟩ := Checked.bind_eq_ok.1 made
    obtain rfl := Checked.pure_eq_ok.1 made
    exact isPlain_pcdFromPackages resolved

section Resolve

variable {inv : Catalog → Prop} {store : RecordStore} {lookup : Lookup Module}
  (lookups : ∀ file arch, Keeps inv (lookup file arch) fun _ => True)
include lookups

theorem keeps_depexModule (module : Module) (line : Nat) (token : String) :
    Keeps inv (depexModule lookup module line token) fun _ => True := by
  refine Keeps.tryCatch ?_ fun failure => ?_
  · exact (lookups _ _).bind fun found _ => .pure trivial
  · split <;> exact .throw _

theorem keeps_depexToken (module : Module) (line : Nat) (token : String) :
    Keeps inv (depexToken lookup module line token) fun read =>
      read.written = token ∧ (token ∈ depexWords → read.value = token) := by
  unfold depexToken
  split
  · exact .pure ⟨rfl, fun _ => rfl⟩
  · rename_i name
    split
    · exact (keeps_depexModule lookups module line token).bind fun value _ =>
        .pure ⟨rfl, fun word => absurd word name⟩
    · split
      · exact .pure ⟨rfl, fun word => absurd word name⟩
      · exact .throw _

theorem keeps_resolveDepex (module : Module) (records : List Record) :
    Keeps inv (resolveDepex lookup module records) fun depex =>
      ∀ entry ∈ depex.entries.entries, ∀ token ∈ entry.2, token.IsRead := by
  have row : ∀ record ∈ records, Keeps inv
      (do return ([record.arch, record.scope],
        ← (Text.words (record.value 0)).mapM (depexToken lookup module record.line)))
      (fun row => ∀ token ∈ row.2, token.IsRead) := by
    intro record _
    refine (Keeps.mapM fun word _ => keeps_depexToken lookups module record.line word).bind
      fun tokens pairs => .pure fun token member => ?_
    obtain ⟨word, listed, rfl, value⟩ := exists_of_mem_forall₂ pairs member
    exact ⟨Text.isSolid_of_mem_words listed, value⟩
  unfold resolveDepex
  split
  · exact .pure nofun
  · split
    · exact .throw _
    · refine (Keeps.mapM row).bind fun rows pairs => .pure ?_
      rintro ⟨key, tokens⟩ filed token member
      obtain ⟨⟨_, parts⟩, grouped, same⟩ := List.mem_map.1 filed
      obtain ⟨rfl, rfl⟩ := Prod.mk.inj same
      obtain ⟨part, within, there⟩ := List.mem_flatten.1 member
      have listed := Table.mem_of_mem_group (Table.mem_entries.1 grouped) part within
      obtain ⟨_, _, read⟩ := exists_of_mem_forall₂ pairs listed
      exact read token there

/-- Looking up other descriptors on the way does no harm, and no item gets more than its packages say. -/
theorem keeps_resolve
    (packages : ∀ file arch, Keeps inv (Catalog.package store file arch) fun _ => True)
    (warned : ∀ warning, Keeps inv (Catalog.warn warning) fun _ => True)
    (file : SourcePath) (arch : String) :
    Keeps inv (resolve store lookup file arch) fun module =>
      module.ReadFrom store file arch ∧ module.IsDepexRead := by
  have dependencies : Keeps inv (resolvePackages store file arch) fun _ => True :=
    (Keeps.mapM fun record _ => (Keeps.ofChecked _).bind fun _ _ => packages _ arch).mono
      fun _ _ => trivial
  unfold resolve
  refine (Keeps.forM fun word _ => warned _).bind fun _ _ => ?_
  refine (Keeps.ofChecked _).bind fun draft defined => ?_
  refine (Keeps.ofChecked _).bind fun module finished => ?_
  refine dependencies.bind fun packages _ => ?_
  refine (Keeps.ofChecked _).bind fun protocols _ => ?_
  refine (Keeps.ofChecked _).bind fun ppis _ => ?_
  refine (Keeps.ofChecked _).bind fun named _ => ?_
  refine (Keeps.ofChecked _).bind fun includes _ => ?_
  refine (Keeps.ofChecked _).bind fun ⟨guids, pcds⟩ read => ?_
  refine (keeps_resolveDepex lookups _ _).bind fun depex words => ?_
  obtain ⟨fileSame, archSame⟩ := file_arch_of_finish finished
  have header : headed store file arch = .ok module := Checked.bind_eq_ok.2 ⟨draft, defined, finished⟩
  have kept := isPlain_pcdSections read
  exact .pure ⟨⟨fileSame, archSame, ⟨module, header, rfl, rfl⟩, rfl, kept⟩, words⟩

end Resolve

end Module

namespace Catalog

variable {inv : Catalog → Prop} {store : RecordStore}

theorem keeps_package_of
    (kept : ∀ catalog, inv catalog → ∀ packages nextSerial, inv { catalog with packages, nextSerial })
    (dec : SourcePath) (arch : String) : Keeps inv (package store dec arch) fun _ => True := by
  have made : Keeps inv (do
      .ofChecked (findFile store dec ".dec")
      .ofChecked (Package.resolve store dec arch)) fun _ => True :=
    (Keeps.ofChecked _).bind fun _ _ => (Keeps.ofChecked _).mono fun _ _ => trivial
  exact .request (fun _ _ _ _ => trivial) made fun catalog before _ _ => kept catalog before _ _

theorem isDepexRead_of_resolvedFrom {module : Module} (resolved : module.ResolvedFrom store) :
    module.IsDepexRead := by
  obtain ⟨lookup, file, arch, catalog, after, ran⟩ := resolved
  have keeps : Keeps (fun _ => True) (Module.resolve store lookup file arch) fun module =>
      module.ReadFrom store file arch ∧ module.IsDepexRead :=
    Module.keeps_resolve (fun _ _ _ _ => ⟨trivial, fun _ _ => trivial⟩)
      (fun dec arch => keeps_package_of (fun _ _ _ _ => trivial) dec arch)
      (fun _ => .modify fun _ _ => trivial) file arch
  exact ((keeps catalog trivial).2 module (by rw [ran])).2

theorem keeps_moduleWithin_of (good : SourcePath × String → Module → Prop)
    (packages : ∀ dec arch, Keeps inv (package store dec arch) fun _ => True)
    (warned : ∀ warning, Keeps inv (warn warning) fun _ => True)
    (known : ∀ catalog, inv catalog → ∀ key object, catalog.modules.get? key = some object →
      good key object.value)
    (read : ∀ file arch (module : Module), module.ReadFrom store file arch → good (file, arch) module)
    (kept : ∀ catalog, inv catalog → ∀ key, catalog.modules.get? key = none → ∀ module,
      good key module → inv { Numbered.advance catalog with
        modules := catalog.modules.insert key { serial := catalog.nextSerial, value := module } })
    (depth : Nat) (inf : SourcePath) (arch : String) :
    Keeps inv (moduleWithin store depth inf arch) fun module => good (inf, arch) module.value := by
  induction depth generalizing inf arch with
  | zero => exact .throw _
  | succ depth ih =>
    have lookups := fun inf arch => (ih inf arch).mono fun _ _ => trivial
    have made : Keeps inv (do
        .ofChecked (findFile store inf ".inf")
        Module.resolve store (moduleWithin store depth) inf arch) (good (inf, arch)) :=
      (Keeps.ofChecked _).bind fun _ _ =>
        (Module.keeps_resolve lookups packages warned inf arch).mono fun module ⟨asWritten, _⟩ =>
          read inf arch module asWritten
    refine .requestNew (fun catalog before object found => known catalog before _ object found) made ?_
    intro catalog before absent module holds
    rw [BuildStep.keep_of_absent absent]
    exact kept catalog before _ absent module holds

end Catalog

end UefiBuild
