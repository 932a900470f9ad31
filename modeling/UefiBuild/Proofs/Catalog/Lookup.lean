import UefiBuild.Proofs.Catalog.Platform

namespace UefiBuild.Catalog

open BuildStep (Keeps)

structure Sound (store : RecordStore) (file : SourcePath) (sku? : Option String) (catalog : Catalog) :
    Prop where
  modules : ∀ key module, catalog.modules.get? key = some module → module.value.IsPlain
  platforms : ∀ arch platform, catalog.platforms.get? (platformKey file arch sku?) = some platform →
    platform.value.ReadFrom store file arch sku?

theorem platformKey_inj {file : SourcePath} {arch other : String} {sku? : Option String}
    (same : platformKey file arch sku? = platformKey file other sku?) : arch = other := by
  have texts := congrArg String.toList (Prod.mk.inj same).2
  simpa [String.toList_inj] using texts

section Keeps

variable {store : RecordStore} {file : SourcePath} {sku? : Option String}

theorem sound_empty : Sound store file sku? {} where
  modules _ _ found := by simp at found
  platforms _ _ found := by simp at found

theorem keeps_warn (warning : Warning) :
    Keeps (Sound store file sku?) (warn warning) fun _ => True :=
  .modify fun _ sound => ⟨sound.modules, sound.platforms⟩

theorem keeps_package (dec : SourcePath) (arch : String) :
    Keeps (Sound store file sku?) (package store dec arch) fun _ => True :=
  keeps_package_of (fun _ sound _ _ => ⟨sound.modules, sound.platforms⟩) dec arch

theorem keeps_moduleWithin (depth : Nat) (inf : SourcePath) (arch : String) :
    Keeps (Sound store file sku?) (moduleWithin store depth inf arch) fun module =>
      module.value.IsPlain := by
  refine keeps_moduleWithin_of (fun _ => Module.IsPlain) keeps_package keeps_warn
    (fun _ sound => sound.modules) (fun _ _ _ read => read.plain) ?_ depth inf arch
  intro catalog sound key _ module plain
  refine ⟨fun other object found => ?_, sound.platforms⟩
  rw [Table.get?_insert] at found
  split at found
  · obtain rfl := Option.some.inj found
    exact plain
  · exact sound.modules other object found

theorem keeps_module (inf : SourcePath) (arch : String) :
    Keeps (Sound store file sku?) (module store inf arch) fun module => module.value.IsPlain :=
  keeps_moduleWithin _ inf arch

theorem keeps_platform (arch : String) :
    Keeps (Sound store file sku?) (platform store file arch sku?) fun platform =>
      platform.value.ReadFrom store file arch sku? := by
  refine .request (fun _ sound object found => sound.platforms arch object found)
    ((Keeps.ofChecked _).bind fun _ _ => Platform.keeps_resolve
      (fun inf arch => (keeps_module inf arch).mono fun _ _ => trivial) store file arch sku?) ?_
  intro catalog sound platform read
  refine ⟨sound.modules, fun other object found => ?_⟩
  rw [platformShelf, Table.get?_insert] at found
  split at found
  · rename_i same
    obtain rfl := platformKey_inj same
    obtain rfl := Option.some.inj found
    exact read
  · exact sound.platforms other object found

end Keeps

end UefiBuild.Catalog
