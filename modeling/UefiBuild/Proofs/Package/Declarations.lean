import UefiBuild.Proofs.Failing
import UefiBuild.Workspace.Checks

namespace UefiBuild

namespace Package

def Declares (package : Package) (id : PcdId) : Prop :=
  ∃ access ∈ Access.declarable, (package.pcd? id access).isSome

def DeclaresFor (package : Package) (id : PcdId) (used : Access) : Prop :=
  (package.pcd? id used.family).isSome

instance (package : Package) (id : PcdId) : Decidable (package.Declares id) :=
  inferInstanceAs (Decidable (∃ access ∈ Access.declarable, _))

instance (package : Package) (id : PcdId) (used : Access) : Decidable (package.DeclaresFor id used) :=
  inferInstanceAs (Decidable (_ = true))

variable {package : Package} {id : PcdId} {used : Access}

theorem isSome_lowestAccess?_iff : (package.lowestAccess? id).isSome ↔ package.Declares id := by
  rw [lowestAccess?, List.find?_isSome, Declares]

end Package

def Platform.Uses (platform : Platform) (id : PcdId) (used : Access) : Prop :=
  (platform.pcds.get? id).bind (·.access?) = some used

theorem Platform.exists_uses_iff {platform : Platform} {holds : PcdId → Access → Prop} :
    (∃ id used, platform.Uses id used ∧ holds id used) ↔
      ∃ entry ∈ platform.pcds.entries, ∃ used ∈ entry.2.access?, holds entry.1 used := by
  constructor
  · rintro ⟨id, used, uses, held⟩
    obtain ⟨pcd, found, access⟩ := Option.bind_eq_some_iff.1 uses
    exact ⟨(id, pcd), Table.mem_entries.2 found, used, access, held⟩
  · rintro ⟨⟨id, pcd⟩, entry, used, access, held⟩
    exact ⟨id, used, Option.bind_eq_some_iff.2 ⟨pcd, Table.mem_entries.1 entry, access⟩, held⟩

instance (platform : Platform) (holds : PcdId → Access → Prop) [∀ id used, Decidable (holds id used)] :
    Decidable (∃ id used, platform.Uses id used ∧ holds id used) :=
  decidable_of_iff _ Platform.exists_uses_iff.symm

namespace Workspace

def DeclaredOtherwise (packages : List Package) (id : PcdId) (used : Access) : Prop :=
  (∃ package ∈ packages, package.Declares id) ∧ ∀ package ∈ packages, ¬ package.DeclaresFor id used

instance (packages : List Package) (id : PcdId) (used : Access) :
    Decidable (DeclaredOtherwise packages id used) := inferInstanceAs (Decidable (_ ∧ _))

/-- A package declares the item for the use of it, but before the first one that does comes another that
declares it otherwise. -/
def DeclaredTooLate (packages : List Package) (id : PcdId) (used : Access) : Prop :=
  ∃ earlier later, packages = earlier ++ later ∧ DeclaredOtherwise earlier id used ∧
    ∃ package ∈ later, package.DeclaresFor id used

variable {packages : List Package} {package : Package} {id : PcdId} {used : Access}

theorem declaredOtherwise_cons_iff :
    DeclaredOtherwise (package :: packages) id used ↔
      ¬ package.DeclaresFor id used ∧
        ((∃ other ∈ package :: packages, other.Declares id) ∧
          ∀ other ∈ packages, ¬ other.DeclaresFor id used) := by
  rw [DeclaredOtherwise, List.forall_mem_cons, and_left_comm]

theorem fails_checkDeclared_cons_iff :
    Checked.Fails (checkDeclared id used (package :: packages)) ↔
      ¬ package.DeclaresFor id used ∧
        (package.Declares id ∨ Checked.Fails (checkDeclared id used packages)) := by
  rw [checkDeclared, ← Package.isSome_lowestAccess?_iff]
  split
  · rename_i declared
    exact iff_of_false (Checked.not_fails_ok true) fun ⟨never, _⟩ => never declared
  · rename_i never
    rw [iff_true_intro (show ¬ package.DeclaresFor id used from never), true_and]
    cases package.lowestAccess? id with
    | some declared => exact iff_of_true (Checked.fails_error _) (.inl rfl)
    | none => simp

theorem fails_checkDeclared_iff_earlier :
    Checked.Fails (checkDeclared id used packages) ↔
      ∃ earlier, earlier <+: packages ∧ DeclaredOtherwise earlier id used := by
  induction packages with
  | nil =>
    refine iff_of_false (Checked.not_fails_ok false) ?_
    rintro ⟨earlier, start, ⟨package, listed, -⟩, -⟩
    rw [List.prefix_nil.1 start] at listed
    cases listed
  | cons package rest ih =>
    rw [fails_checkDeclared_cons_iff, ih]
    constructor
    · rintro ⟨never, declares | ⟨earlier, start, ⟨other, listed, declares⟩, none⟩⟩
      · refine ⟨[package], by simp, ⟨package, by simp, declares⟩, ?_⟩
        rintro other listed
        rwa [List.mem_singleton.1 listed]
      · refine ⟨package :: earlier, (List.prefix_cons_inj package).2 start, ?_⟩
        exact declaredOtherwise_cons_iff.2
          ⟨never, ⟨other, List.mem_cons_of_mem package listed, declares⟩, none⟩
    · rintro ⟨earlier, start, otherwise⟩
      rcases List.prefix_cons_iff.1 start with rfl | ⟨earlier, rfl, within⟩
      · obtain ⟨⟨_, listed, -⟩, -⟩ := otherwise
        cases listed
      · obtain ⟨never, ⟨other, listed, declares⟩, none⟩ := declaredOtherwise_cons_iff.1 otherwise
        refine ⟨never, ?_⟩
        rcases List.mem_cons.1 listed with rfl | listed
        · exact .inl declares
        · exact .inr ⟨earlier, within, ⟨other, listed, declares⟩, none⟩

/-- Not all packages together decide on an item, but those up to the first that declares it. -/
theorem fails_checkDeclared_iff :
    Checked.Fails (checkDeclared id used packages) ↔
      DeclaredOtherwise packages id used ∨ DeclaredTooLate packages id used := by
  rw [fails_checkDeclared_iff_earlier]
  constructor
  · rintro ⟨earlier, ⟨later, rfl⟩, otherwise⟩
    by_cases late : ∃ package ∈ later, package.DeclaresFor id used
    · exact .inr ⟨earlier, later, rfl, otherwise, late⟩
    · obtain ⟨⟨package, listed, declares⟩, none⟩ := otherwise
      refine .inl ⟨⟨package, List.mem_append_left later listed, declares⟩, fun other listed => ?_⟩
      rcases List.mem_append.1 listed with listed | listed
      · exact none other listed
      · exact fun declaredFor => late ⟨other, listed, declaredFor⟩
  · rintro (otherwise | ⟨earlier, later, rfl, otherwise, -⟩)
    · exact ⟨packages, List.prefix_rfl, otherwise⟩
    · exact ⟨earlier, List.prefix_append earlier later, otherwise⟩

theorem fails_undeclaredPcds_iff {platform : Platform} :
    Checked.Fails (undeclaredPcds platform packages) ↔
      ∃ id used, platform.Uses id used ∧
        (DeclaredOtherwise packages id used ∨ DeclaredTooLate packages id used) := by
  unfold undeclaredPcds
  simp only [bind_pure_comp, Checked.fails_map_iff, Checked.fails_mapM_iff, Checked.fails_mapError_iff,
    fails_checkDeclared_iff, Platform.exists_uses_iff, Prod.exists, List.mem_filterMap,
    Option.map_eq_some_iff]
  constructor
  · rintro ⟨_, _, ⟨id, pcd, entry, used, access, same⟩, failed⟩
    obtain ⟨rfl, rfl⟩ := Prod.mk.inj same
    exact ⟨id, pcd, entry, used, access, failed⟩
  · rintro ⟨id, pcd, entry, used, access, failed⟩
    exact ⟨id, used, ⟨id, pcd, entry, used, access, rfl⟩, failed⟩

end Workspace

end UefiBuild
