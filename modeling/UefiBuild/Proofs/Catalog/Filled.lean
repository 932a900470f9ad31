import UefiBuild.Proofs.Catalog.Platform

namespace UefiBuild.Catalog

open BuildStep (Ends Keeps)

/-- The catalog keeps modules as their descriptors say, and with them all that an earlier one kept. -/
structure Follows (store : RecordStore) (earlier catalog : Catalog) : Prop where
  read : ∀ key module, catalog.modules.get? key = some module →
    module.value.ReadFrom store key.1 key.2
  kept : ∀ key module, earlier.modules.get? key = some module → catalog.modules.get? key = some module

variable {store : RecordStore} {earlier catalog : Catalog}

theorem follows_warn (warning : Warning) :
    Keeps (Follows store earlier) (warn warning) fun _ => True :=
  .modify fun _ follows => ⟨follows.read, follows.kept⟩

theorem follows_package (dec : SourcePath) (arch : String) :
    Keeps (Follows store earlier) (package store dec arch) fun _ => True :=
  keeps_package_of (fun _ follows _ _ => ⟨follows.read, follows.kept⟩) dec arch

theorem follows_module (inf : SourcePath) (arch : String) :
    Keeps (Follows store earlier) (module store inf arch) fun module =>
      module.value.ReadFrom store inf arch := by
  refine keeps_moduleWithin_of (fun key module => module.ReadFrom store key.1 key.2)
    follows_package follows_warn (fun _ follows => follows.read) (fun _ _ _ read => read) ?_ _ inf arch
  intro catalog follows key absent module read
  constructor
  · intro other object found
    rw [Table.get?_insert] at found
    split at found
    · rename_i same
      obtain rfl := Option.some.inj found
      exact same ▸ read
    · exact follows.read other object found
  · exact fun other object found =>
      Table.get?_insert_of_absent absent _ (follows.kept other object found)

theorem follows_platform (dsc : SourcePath) (arch : String) (sku? : Option String) :
    Keeps (Follows store earlier) (platform store dsc arch sku?) fun _ => True := by
  have lookups : ∀ inf arch, Keeps (Follows store earlier) (module store inf arch) fun _ => True :=
    fun inf arch => (follows_module inf arch).mono fun _ _ => trivial
  have made : Keeps (Follows store earlier) (do
      .ofChecked (findFile store dsc ".dsc")
      Platform.resolve store (module store) dsc arch sku?) fun _ => True :=
    (Keeps.ofChecked _).bind fun _ _ =>
      (Platform.keeps_resolve lookups store dsc arch sku?).mono fun _ _ => trivial
  exact .request (fun _ _ _ _ => trivial) made fun _ follows _ _ => ⟨follows.read, follows.kept⟩

inductive FilledFrom (store : RecordStore) : Catalog → Prop
  | empty : FilledFrom store {}
  | afterWarning {catalog : Catalog} (filled : FilledFrom store catalog) (warning : Warning) :
    FilledFrom store ((warn warning).run.run catalog).2
  | afterNumber {catalog : Catalog} (filled : FilledFrom store catalog) :
    FilledFrom store (Numbered.advance catalog)
  | afterPackage {catalog : Catalog} (filled : FilledFrom store catalog) (dec : SourcePath)
    (arch : String) : FilledFrom store ((package store dec arch).run.run catalog).2
  | afterModule {catalog : Catalog} (filled : FilledFrom store catalog) (inf : SourcePath)
    (arch : String) : FilledFrom store ((module store inf arch).run.run catalog).2
  | afterPlatform {catalog : Catalog} (filled : FilledFrom store catalog) (dsc : SourcePath)
    (arch : String) (sku? : Option String) :
    FilledFrom store ((platform store dsc arch sku?).run.run catalog).2

theorem FilledFrom.read (filled : FilledFrom store catalog) :
    ∀ key module, catalog.modules.get? key = some module → module.value.ReadFrom store key.1 key.2 := by
  have follows : Follows store {} catalog := by
    induction filled with
    | empty => exact ⟨fun _ _ found => by simp at found, fun _ _ found => by simp at found⟩
    | afterWarning _ warning ih => exact (follows_warn warning _ ih).1
    | afterNumber _ ih => exact ⟨ih.read, ih.kept⟩
    | afterPackage _ dec arch ih => exact (follows_package dec arch _ ih).1
    | afterModule _ inf arch ih => exact (follows_module inf arch _ ih).1
    | afterPlatform _ dsc arch sku? ih => exact (follows_platform dsc arch sku? _ ih).1
  exact follows.read

theorem FilledFrom.ends_warn (filled : FilledFrom store catalog) (warning : Warning) :
    Ends (warn warning) catalog fun _ after => FilledFrom store after ∧ after.modules = catalog.modules := by
  intro _ after ran
  obtain rfl := (Prod.mk.inj ran).2
  exact ⟨filled.afterWarning warning, rfl⟩

theorem FilledFrom.ends_module (filled : FilledFrom store catalog) (inf : SourcePath) (arch : String) :
    Ends (module store inf arch) catalog fun found after =>
      FilledFrom store after ∧ Follows store catalog after ∧
        after.modules.get? (inf, arch) = some found := by
  intro found after ran
  have grown := (follows_module inf arch _ ⟨filled.read, fun _ _ => id⟩).1
  have last := filled.afterModule inf arch
  rw [ran] at grown last
  have present : Ends (module store inf arch) catalog fun found after =>
      after.modules.get? (inf, arch) = some found := Ends.request fun _ _ => rfl
  exact ⟨last, grown, present found after ran⟩

end UefiBuild.Catalog
