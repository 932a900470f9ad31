import UefiBuild.Proofs.Catalog.Lookup
import UefiBuild.Proofs.Library.Linked
import UefiBuild.Proofs.Workspace.Steps
import UefiBuild.Workspace.Checks

namespace UefiBuild.Workspace

open BuildStep (Keeps)
open OffsetStage (flashIds)

/-- The platform keeps an item in flash on an architecture. -/
def KeepsInFlash (workspace : Workspace) (arch : String) (id : PcdId) : Prop :=
  ∃ platform : Platform, id ∈ flashIds platform ∧
    platform.ReadFrom workspace.store workspace.config.platform arch workspace.config.sku?

structure Describes (workspace : Workspace) (arch : String) (platform : Platform) : Prop where
  arch_eq : platform.arch = arch
  wellSet : platform.WellSet
  mem_flashIds : ∀ id, id ∈ flashIds platform ↔ workspace.KeepsInFlash arch id

structure IsFor (workspace : Workspace) (arch : String) (context : PlatformContext) : Prop where
  arch_eq : context.arch = arch
  describes : workspace.Describes arch context.data

def AsksForFlash (workspace : Workspace) (arch : String) (context : ModuleContext) : Prop :=
  ∀ pcd ∈ context.pcds, pcd.AsksIf (workspace.KeepsInFlash arch pcd.id)

structure Sound (workspace : Workspace) (state : BuildState) : Prop where
  catalog : Catalog.Sound workspace.store workspace.config.platform workspace.config.sku? state.catalog
  platforms : ∀ arch context,
    state.contexts.platforms.get? (workspace.key .platform arch workspace.config.platform) = some context →
      workspace.IsFor arch context.value
  modules : ∀ arch file context,
    state.contexts.modules.get? (workspace.key .module arch file) = some context →
      workspace.AsksForFlash arch context.value

variable {workspace : Workspace} {arch : String}

theorem sound_fresh (workspace : Workspace) (disk : Disk) : workspace.Sound { disk } where
  catalog := Catalog.sound_empty
  platforms _ _ found := by simp at found
  modules _ _ _ found := by simp at found

theorem describes_of_readFrom {platform : Platform} (read : platform.ReadFrom workspace.store
    workspace.config.platform arch workspace.config.sku?) : workspace.Describes arch platform := by
  refine ⟨read.arch_eq, read.wellSet, fun id => ⟨fun kept => ⟨platform, kept, read⟩, ?_⟩⟩
  rintro ⟨other, kept, otherRead⟩
  rw [mem_flashIds] at kept ⊢
  rwa [read.pcds_eq otherRead]

theorem Describes.addPcd {platform : Platform} (describes : workspace.Describes arch platform)
    (id : PcdId) (value : String) : workspace.Describes arch (platform.addPcd id value) where
  arch_eq := describes.arch_eq
  wellSet := describes.wellSet.addPcd id value
  mem_flashIds other := Platform.mem_flashIds_addPcd.trans (describes.mem_flashIds other)

theorem keeps_resolving {α : Type} {step : Resolve α} {post : α → Prop}
    (keeps : Keeps (Catalog.Sound workspace.store workspace.config.platform workspace.config.sku?) step post) :
    Keeps workspace.Sound (Build.resolving step) post := by
  intro state sound
  obtain ⟨catalog, returned⟩ := keeps state.catalog sound.catalog
  exact ⟨⟨catalog, sound.platforms, sound.modules⟩, returned⟩

theorem keeps_module (file : SourcePath) :
    Keeps workspace.Sound (workspace.module file arch) fun module => module.value.IsPlain :=
  keeps_resolving (Catalog.keeps_module file arch)

theorem keeps_linked (platform : Platform) {module : Shared Module} (plain : module.value.IsPlain) :
    Keeps workspace.Sound (workspace.linked platform module) fun libraries =>
      ∀ library ∈ libraries, library.value.IsPlain :=
  keeps_resolving (Platform.keeps_linked Catalog.keeps_module Catalog.keeps_warn _ platform plain)

theorem Sound.advance {state : BuildState} (sound : workspace.Sound state) :
    workspace.Sound (Numbered.advance state) :=
  ⟨⟨sound.catalog.modules, sound.catalog.platforms⟩, sound.platforms, sound.modules⟩

theorem keeps_share {α : Type} {value : α} {post : Shared α → Prop}
    (holds : ∀ serial, post { serial, value }) : Keeps workspace.Sound (Build.share value) post :=
  .modifyGet fun _ sound => ⟨sound.advance, holds _⟩

theorem keeps_platform (arch : String) :
    Keeps workspace.Sound (workspace.platform arch) fun platform =>
      workspace.Describes arch platform.value := by
  unfold platform
  refine (keeps_resolving (Catalog.keeps_platform arch)).bind fun platform read => ?_
  have describes := describes_of_readFrom read
  split
  · exact .pure describes
  · refine keeps_share fun _ => ?_
    exact List.foldlRecOn workspace.config.flashPcds.entries _ describes
      fun platform describes entry _ => describes.addPcd entry.1 entry.2

theorem platform_of_make {config : BuildConfig} {shared : Shared Platform} {context : PlatformContext}
    (ok : PlatformContext.make config shared = .ok context) :
    context.platform = shared ∧ context.arch = shared.value.arch := by
  unfold PlatformContext.make at ok
  split at ok
  · cases ok
  · obtain ⟨edkOptions, -, ok⟩ := Checked.bind_eq_ok.1 ok
    obtain ⟨edk2Options, -, ok⟩ := Checked.bind_eq_ok.1 ok
    obtain ⟨allOptions, -, ok⟩ := Checked.bind_eq_ok.1 ok
    obtain rfl := Checked.pure_eq_ok.1 ok
    exact ⟨rfl, rfl⟩

theorem keeps_platformContext (arch : String) :
    Keeps workspace.Sound (workspace.platformContext arch) fun context =>
      workspace.IsFor arch context.value := by
  have made : Keeps workspace.Sound (do
      let platform ← workspace.platform arch
      .ofChecked (PlatformContext.make workspace.config platform)) (workspace.IsFor arch) := by
    refine (keeps_platform arch).bind fun platform describes => ?_
    refine (Keeps.ofChecked _).mono fun context ok => ?_
    obtain ⟨same, archSame⟩ := platform_of_make ok
    exact ⟨archSame.trans describes.arch_eq, by rwa [PlatformContext.data, same]⟩
  refine .request (fun _ sound context found => sound.platforms arch context found) made ?_
  intro state sound context isFor
  refine ⟨sound.advance.catalog, fun other known found => ?_, sound.modules⟩
  rw [BuildState.platformShelf, Table.get?_insert] at found
  split at found
  · rename_i same
    obtain rfl := congrArg ContextKey.arch same
    obtain rfl := Option.some.inj found
    exact isFor
  · exact sound.platforms other known found

section Contexts

variable {platform : PlatformContext}

theorem keeps_platformPackages :
    Keeps workspace.Sound (workspace.platformPackages platform) fun _ => True :=
  keeps_platformPackages_of keeps_module (fun _ => keeps_linked platform.data) fun _ sound _ =>
    ⟨sound.advance.catalog, sound.platforms, sound.modules⟩

theorem keeps_moduleContextWithin (isFor : workspace.IsFor arch platform) (depth : Nat)
    (file : SourcePath) :
    Keeps workspace.Sound (workspace.moduleContextWithin platform depth file) fun context =>
      workspace.AsksForFlash arch context.value := by
  refine keeps_moduleContextWithin_of keeps_module (fun _ => keeps_linked platform.data)
    (workspace.AsksForFlash arch) keeps_platformPackages ?_ ?_ ?_ depth file
  · rw [isFor.arch_eq]
    exact fun state sound file context found => sound.modules arch file context found
  · intro module libraries packages disk context plain linkedPlain ok pcd used
    refine (ModuleContext.asksIf_of_make ok isFor.describes.wellSet plain linkedPlain pcd used).mono ?_
    exact (isFor.describes.mem_flashIds pcd.id).1
  · intro state sound file context asks
    refine ⟨sound.advance.catalog, sound.platforms, fun other place known found => ?_⟩
    rw [BuildState.moduleShelf, Table.get?_insert, isFor.arch_eq] at found
    split at found
    · rename_i same
      obtain rfl := congrArg ContextKey.arch same
      obtain rfl := Option.some.inj found
      exact asks
    · exact sound.modules other place known found

theorem keeps_moduleContext (isFor : workspace.IsFor arch platform) (file : SourcePath) :
    Keeps workspace.Sound (workspace.moduleContext platform file) fun context =>
      workspace.AsksForFlash arch context.value := keeps_moduleContextWithin isFor _ file

end Contexts

theorem keeps_moduleContexts (arch : String) :
    Keeps workspace.Sound (workspace.moduleContexts arch) fun _ => True := by
  refine (keeps_platformContext arch).bind fun platform isFor => ?_
  exact (Keeps.mapM fun file _ => keeps_moduleContext isFor file).mono fun _ _ => trivial

theorem keeps_packageList (arch : String) :
    Keeps workspace.Sound (workspace.packageList arch) fun _ => True :=
  keeps_packageList_of (keeps_moduleContexts arch)

end UefiBuild.Workspace
