import UefiBuild.Proofs.Catalog.Content

namespace UefiBuild

open BuildStep (Agrees Keeps request_cases)
open Checked (IsLost)

def Failure.Endless (failure : Failure) : Prop := failure.cause.isEndless

namespace Catalog

def readPackage (store : RecordStore) (file : SourcePath) (arch : String) : Checked Package := do
  findFile store file ".dec"
  Package.resolve store file arch

def makeModule (store : RecordStore) (lookup : Lookup Module) (file : SourcePath) (arch : String) :
    Resolve Module := do
  .ofChecked (findFile store file ".inf")
  Module.resolve store lookup file arch

def shown (look : SourcePath → String → Checked Module) : Lookup Module := fun file arch =>
  .ofChecked ((look file arch).map (Shared.mk 0))

def readModuleWithin (store : RecordStore) : Nat → SourcePath → String → Checked Module
  | 0, file, _ => .error (.of (.referenceCycle file))
  | depth + 1, file, arch =>
    ((makeModule store (shown (readModuleWithin store depth)) file arch).run.run {}).1.map Module.content

def readModule (store : RecordStore) : SourcePath → String → Checked Module :=
  readModuleWithin store (store.fileCount + 1)

theorem moduleWithin_succ (store : RecordStore) (depth : Nat) (file : SourcePath) (arch : String) :
    moduleWithin store (depth + 1) file arch =
      moduleShelf.request (file, arch) (makeModule store (moduleWithin store depth) file arch) := rfl

structure Faithful (store : RecordStore) (catalog : Catalog) : Prop where
  packages : ∀ key package, catalog.packages.get? key = some package →
    readPackage store key.1 key.2 = .ok package.value
  modules : ∀ key module, catalog.modules.get? key = some module →
    readModule store key.1 key.2 = .ok module.value.content

variable {store : RecordStore} {lost : Failure → Prop} {file : SourcePath} {arch : String}

theorem faithful_empty : Faithful store {} where
  packages _ _ found := by simp at found
  modules _ _ found := by simp at found

theorem faithful_warn (warning : Warning) : Keeps (Faithful store) (warn warning) fun _ => True :=
  .modify fun _ faithful => ⟨faithful.packages, faithful.modules⟩

theorem package_eq (store : RecordStore) (dec : SourcePath) (arch : String) :
    package store dec arch = packageShelf.request (dec, arch) (.ofChecked (readPackage store dec arch)) := by
  rw [package, readPackage]
  cases findFile store dec ".dec" <;> rfl

theorem faithful_package (dec : SourcePath) (arch : String) :
    Keeps (Faithful store) (package store dec arch) fun package =>
      readPackage store dec arch = .ok package.value := by
  rw [package_eq]
  refine Keeps.request (fun _ faithful object found => faithful.packages _ object found) (.ofChecked _) ?_
  intro catalog faithful package ok
  refine ⟨fun key object found => ?_, faithful.modules⟩
  rw [packageShelf, Table.get?_insert] at found
  split at found
  · rename_i same
    obtain rfl := Option.some.inj found
    exact same ▸ ok
  · exact faithful.packages key object found

theorem run_package {catalog : Catalog} (faithful : Faithful store catalog) (dec : SourcePath)
    (arch : String) :
    ((package store dec arch).run.run catalog).1.map Shared.value = readPackage store dec arch := by
  have keeps : Keeps (Faithful store) (.ofChecked (readPackage store dec arch)) fun _ => True :=
    (Keeps.ofChecked _).mono fun _ _ => trivial
  rw [package_eq]
  rcases request_cases packageShelf (dec, arch) faithful keeps with ⟨object, between, kept, found, ran⟩ | ran
  · rw [ran]
    exact (kept.packages _ object found).symm
  · exact ran

theorem package_agrees (dec : SourcePath) (arch : String) :
    Agrees lost (Faithful store) Shared.value (package store dec arch) (package store dec arch) :=
  have keeps := (faithful_package dec arch).mono fun _ _ => trivial
  ⟨keeps, keeps, fun _ faithful _ otherFaithful => by
    rw [run_package faithful, run_package otherFaithful]
    exact .refl _⟩

theorem makeModule_agrees {lookup another : Lookup Module}
    (endless : ∀ failure, lost failure → failure.Endless)
    (lookups : ∀ other, Module.Refers store arch file other →
      Agrees lost (Faithful store) (Module.content ∘ Shared.value) (lookup other arch) (another other arch)) :
    Agrees lost (Faithful store) Module.content (makeModule store lookup file arch)
      (makeModule store another file arch) :=
  Agrees.ofChecked_bind fun _ _ =>
    Module.resolve_agrees endless (fun dec => package_agrees dec arch) faithful_warn lookups

theorem run_shown (look : SourcePath → String → Checked Module) (file : SourcePath) (arch : String)
    (catalog : Catalog) :
    ((shown look file arch).run.run catalog).1.map (Module.content ∘ Shared.value) =
      (look file arch).map Module.content := by
  change Except.map _ (Except.map _ _) = _
  rw [Checked.map_map]
  rfl

theorem shown_agrees {look another : SourcePath → String → Checked Module}
    (agrees : (look file arch).Agrees lost (another file arch)) :
    Agrees lost (Faithful store) (Module.content ∘ Shared.value) (shown look file arch)
      (shown another file arch) := by
  refine ⟨(Keeps.ofChecked _).mono fun _ _ => trivial, (Keeps.ofChecked _).mono fun _ _ => trivial, ?_⟩
  intro _ _ _ _
  rw [run_shown, run_shown]
  exact agrees.map Module.content

theorem map_content_readModuleWithin (depth : Nat) (file : SourcePath) (arch : String) :
    (readModuleWithin store depth file arch).map Module.content = readModuleWithin store depth file arch := by
  cases depth with
  | zero => rfl
  | succ depth =>
    rw [readModuleWithin, Checked.map_map]
    exact congrArg (fun f => Except.map f _) (funext Module.content_content)

theorem readModuleWithin_succ_agrees (endless : ∀ failure, lost failure → failure.Endless)
    {depth other : Nat}
    (agrees : ∀ next, Module.Refers store arch file next →
      (readModuleWithin store depth next arch).Agrees lost (readModuleWithin store other next arch)) :
    (readModuleWithin store (depth + 1) file arch).Agrees lost
      (readModuleWithin store (other + 1) file arch) := by
  have made := makeModule_agrees endless fun next refers => shown_agrees (agrees next refers)
  exact made.results {} faithful_empty {} faithful_empty

theorem readModuleWithin_of_missing {failure : Failure}
    (missing : findFile store file ".inf" = .error failure) (depth : Nat) :
    readModuleWithin store (depth + 1) file arch = .error failure := by
  rw [readModuleWithin, makeModule, missing]
  rfl

theorem readModuleWithin_agrees {depth other : Nat} (deeper : depth ≤ other) (file : SourcePath) :
    (readModuleWithin store depth file arch).Agrees Failure.Endless
      (readModuleWithin store other file arch) := by
  induction depth generalizing other file with
  | zero => exact fun kept => absurd ⟨_, rfl, rfl⟩ kept
  | succ depth ih =>
    obtain ⟨other, rfl⟩ := Nat.exists_eq_succ_of_ne_zero (Nat.ne_zero_of_lt deeper)
    exact readModuleWithin_succ_agrees (fun _ => id) fun next _ => ih (Nat.le_of_succ_le_succ deeper) next

/-- A file whose module can only be told from some depth on lies above as many others. -/
theorem exists_above {depth : Nat} (late : IsLost Failure.Endless (readModuleWithin store depth file arch))
    (told : ¬ IsLost Failure.Endless (readModuleWithin store (depth + 1) file arch)) :
    ∃ files : List SourcePath, files.Nodup ∧ files ⊆ store.files.keys ∧ files.length = depth ∧
      ∀ other ∈ files, ¬ IsLost Failure.Endless (readModuleWithin store (depth + 1) other arch) := by
  induction depth generalizing file with
  | zero => exact ⟨[], List.nodup_nil, List.nil_subset _, rfl, nofun⟩
  | succ depth ih =>
    -- If everything below could be told one step earlier, so could this.
    have below : ∃ next, IsLost Failure.Endless (readModuleWithin store depth next arch) ∧
        ¬ IsLost Failure.Endless (readModuleWithin store (depth + 1) next arch) := by
      by_contra none
      have same : (readModuleWithin store (depth + 2) file arch).Agrees Failure.Endless
          (readModuleWithin store (depth + 1) file arch) :=
        readModuleWithin_succ_agrees (fun _ => id) fun next _ told => by
          have early : ¬ IsLost Failure.Endless (readModuleWithin store depth next arch) :=
            fun late => none ⟨next, late, told⟩
          exact (readModuleWithin_agrees (Nat.le_succ depth) next early).symm
      rw [same told] at told
      exact told late
    obtain ⟨next, nextLate, nextTold⟩ := below
    obtain ⟨files, nodup, known, length, all⟩ := ih nextLate nextTold
    have present : file ∈ store.files.keys := by
      cases found : findFile store file ".inf" with
      | ok _ => exact mem_keys_of_findFile found
      | error failure =>
        rw [readModuleWithin_of_missing found, ← readModuleWithin_of_missing found] at told
        exact absurd late told
    refine ⟨file :: files, List.nodup_cons.2 ⟨fun member => all file member late, nodup⟩, ?_, ?_, ?_⟩
    · exact List.cons_subset.2 ⟨present, known⟩
    · rw [List.length_cons, length]
    · intro other member
      rcases List.mem_cons.1 member with rfl | member
      · exact told
      · have sooner := all other member
        rwa [readModuleWithin_agrees (Nat.le_succ _) other sooner] at sooner

theorem readModuleWithin_stable (file : SourcePath) (arch : String) :
    (readModuleWithin store (store.fileCount + 2) file arch).Agrees Failure.Endless
      (readModule store file arch) := by
  intro told
  by_cases late : IsLost Failure.Endless (readModule store file arch)
  · obtain ⟨files, nodup, known, length, -⟩ := exists_above late told
    have bounded := RecordStore.length_le_fileCount nodup known
    omega
  · exact (readModuleWithin_agrees (Nat.le_succ _) file late).symm

theorem readModuleWithin_agrees_readModule (depth : Nat) (file : SourcePath) (arch : String) :
    (readModuleWithin store depth file arch).Agrees Failure.Endless (readModule store file arch) := by
  induction depth generalizing file with
  | zero => exact fun kept => absurd ⟨_, rfl, rfl⟩ kept
  | succ depth ih =>
    exact (readModuleWithin_succ_agrees (fun _ => id) fun next _ => ih next).trans
      (readModuleWithin_stable file arch)

theorem Faithful.insertModule {catalog : Catalog} (faithful : Faithful store catalog)
    {module : Module} (read : readModule store file arch = .ok module.content) (serial nextSerial : Nat) :
    Faithful store { catalog with
      modules := catalog.modules.insert (file, arch) { serial, value := module }, nextSerial } := by
  refine ⟨faithful.packages, fun other object found => ?_⟩
  rw [Table.get?_insert] at found
  split at found
  · rename_i same
    obtain rfl := Option.some.inj found
    exact same ▸ read
  · exact faithful.modules other object found

theorem moduleWithin_agrees_shown (depth : Nat) (file : SourcePath) (arch : String) :
    Agrees Failure.Endless (Faithful store) (Module.content ∘ Shared.value)
      (moduleWithin store depth file arch) (shown (readModule store) file arch) := by
  induction depth generalizing file with
  | zero =>
    exact ⟨.throw _, (Keeps.ofChecked _).mono fun _ _ => trivial,
      fun _ _ _ _ kept => absurd ⟨_, rfl, rfl⟩ kept⟩
  | succ depth ih =>
    have made : Agrees Failure.Endless (Faithful store) Module.content
        (makeModule store (moduleWithin store depth) file arch)
        (makeModule store (shown (readModule store)) file arch) :=
      makeModule_agrees (fun _ => id) fun next _ => ih next
    have reads (catalog : Catalog) (faithful : Faithful store catalog) :
        Checked.Agrees Failure.Endless
          (((makeModule store (moduleWithin store depth) file arch).run.run catalog).1.map Module.content)
          (readModule store file arch) :=
      (made.results catalog faithful {} faithful_empty).trans (readModuleWithin_stable file arch)
    have keeps : Keeps (Faithful store) (makeModule store (moduleWithin store depth) file arch)
        fun module => readModule store file arch = .ok module.content :=
      fun catalog faithful => ⟨(made.keeps catalog faithful).1, fun module ok =>
        (reads catalog faithful).eq_ok (Checked.map_eq_ok.2 ⟨module, ok, rfl⟩)⟩
    refine ⟨?_, (Keeps.ofChecked _).mono fun _ _ => trivial, fun catalog faithful _ _ => ?_⟩
    · refine (Keeps.request (fun _ faithful object found => faithful.modules (file, arch) object found) keeps
        fun catalog faithful module read => ?_).mono fun _ _ => trivial
      exact faithful.insertModule read _ _
    · rw [run_shown, readModule, map_content_readModuleWithin, moduleWithin_succ]
      rcases request_cases moduleShelf (file, arch) faithful made.keeps with
        ⟨object, between, kept, found, ran⟩ | ran
      · rw [ran]
        exact fun _ => (kept.modules (file, arch) object found).symm
      · rw [← Checked.map_map, ran]
        exact reads catalog faithful

theorem shown_agrees_moduleWithin (depth : Nat) (file : SourcePath) (arch : String) :
    Agrees Failure.Endless (Faithful store) (Module.content ∘ Shared.value)
      (shown (readModuleWithin store depth) file arch) (moduleWithin store depth file arch) := by
  induction depth generalizing file with
  | zero =>
    exact ⟨(Keeps.ofChecked _).mono fun _ _ => trivial, .throw _,
      fun _ _ _ _ kept => absurd ⟨_, rfl, rfl⟩ kept⟩
  | succ depth ih =>
    have made : Agrees Failure.Endless (Faithful store) Module.content
        (makeModule store (shown (readModuleWithin store depth)) file arch)
        (makeModule store (moduleWithin store depth) file arch) :=
      makeModule_agrees (fun _ => id) fun next _ => ih next
    refine ⟨(Keeps.ofChecked _).mono fun _ _ => trivial,
      (moduleWithin_agrees_shown (depth + 1) file arch).keeps, fun _ _ catalog faithful => ?_⟩
    rw [run_shown, map_content_readModuleWithin, moduleWithin_succ]
    rcases request_cases moduleShelf (file, arch) faithful made.keepsOther with
      ⟨object, between, kept, found, ran⟩ | ran
    · rw [ran]
      refine (readModuleWithin_agrees_readModule (depth + 1) file arch).trans fun _ => ?_
      exact kept.modules (file, arch) object found
    · rw [← Checked.map_map, ran]
      exact made.results {} faithful_empty catalog faithful

theorem module_agrees (file : SourcePath) (arch : String) :
    Agrees Failure.Endless (Faithful store) (Module.content ∘ Shared.value) (module store file arch)
      (module store file arch) :=
  (moduleWithin_agrees_shown _ file arch).trans (shown_agrees_moduleWithin _ file arch)

end Catalog

end UefiBuild
