import UefiBuild.Library.Legacy
import UefiBuild.Proofs.Library.Links

namespace UefiBuild

open BuildStep (Ends SameFrom)
open Catalog (FilledFrom Follows)

variable {store : RecordStore} {platform : Platform} {catalog : Catalog}

namespace Platform.LegacySearch

/-- How far a search by names has come: the libraries it has found are different files, and there is room
for those that are still to be found. -/
structure Searching (store : RecordStore) (platform : Platform) (room : Nat) (search : LegacySearch)
    (catalog : Catalog) : Prop where
  filled : FilledFrom store catalog
  found : ∀ library ∈ search.libraries,
    catalog.modules.get? (library.value.file, platform.arch) = some library
  once : (search.libraries.map (·.value.file)).Nodup
  fits : search.frontier.length + store.fileCount < room + search.libraries.length

section Searching

variable {room : Nat} {search : LegacySearch}

theorem searching_start (filled : FilledFrom store catalog) (platform : Platform) (names : List String) :
    Searching store platform (store.fileCount + 2) { frontier := [names] } catalog where
  filled := filled
  found _ member := nomatch member
  once := List.nodup_nil
  fits := by
    rw [List.length_singleton, List.length_nil]
    omega

theorem Searching.pop {names : List String} {others : List (List String)}
    (searching : Searching store platform (room + 1) search catalog)
    (next : search.frontier = names :: others) :
    Searching store platform room { search with frontier := others } catalog where
  filled := searching.filled
  found := searching.found
  once := searching.once
  fits := by
    have fits := searching.fits
    rw [next, List.length_cons] at fits
    dsimp only
    omega

theorem Searching.find (searching : Searching store platform room search catalog) (module : Module)
    (name : String) :
    Ends (find (Catalog.module store) platform module search name) catalog
      (Searching store platform room) := by
  unfold LegacySearch.find
  split
  · refine (searching.filled.ends_warn _).bind fun _ after ⟨filled, same⟩ => .pure ?_
    exact ⟨filled, same ▸ searching.found, searching.once, searching.fits⟩
  · rename_i file _
    refine (searching.filled.ends_module file platform.arch).bind ?_
    rintro library after ⟨filled, follows, here⟩
    have kept : ∀ other ∈ search.libraries,
        after.modules.get? (other.value.file, platform.arch) = some other :=
      fun other member => follows.kept _ _ (searching.found other member)
    split
    · exact .pure ⟨filled, kept, searching.once, searching.fits⟩
    · rename_i new
      have named : library.value.file = file := (filled.read _ _ here).file_eq
      rw [← named] at here
      -- The catalog has one module for a file, so another module is another file.
      have fresh : library.value.file ∉ search.libraries.map (·.value.file) := by
        intro listed
        obtain ⟨other, member, same⟩ := List.mem_map.1 listed
        have known := kept other member
        rw [same, here] at known
        obtain rfl := Option.some.inj known
        exact new (List.any_eq_true.2 ⟨library, member, by simp⟩)
      refine .pure { filled, found := ?_, once := ?_, fits := ?_ }
      · intro other member
        rcases List.mem_append.1 member with old | last
        · exact kept other old
        · rwa [List.mem_singleton.1 last]
      · rw [List.map_append, List.map_singleton]
        exact List.nodup_append.2 ⟨searching.once, List.nodup_singleton _, by
          rintro one listed _ last rfl
          exact fresh (List.mem_singleton.1 last ▸ listed)⟩
      · have fits := searching.fits
        rw [List.length_append, List.length_singleton, List.length_cons]
        omega

theorem Searching.turn {names : List String} {others : List (List String)} (module : Module)
    (searching : Searching store platform (room + 1) search catalog)
    (next : search.frontier = names :: others) :
    Ends (names.foldlM (LegacySearch.find (Catalog.module store) platform module)
        { search with frontier := others }) catalog (Searching store platform room) := by
  let finding (_ : List String) (search : LegacySearch) (catalog : Catalog) : Prop :=
    Searching store platform room search catalog
  have first : finding names { search with frontier := others } catalog := searching.pop next
  exact Ends.foldlM first fun name _ _ _ searching => searching.find module name

theorem Searching.run (searching : Searching store platform room search catalog) (module : Module) :
    Ends (run (Catalog.module store) platform module room search) catalog fun libraries after =>
      FilledFrom store after ∧ ∀ library ∈ libraries,
        after.modules.get? (library.value.file, platform.arch) = some library := by
  induction room generalizing search catalog with
  | zero => exact .throw _
  | succ room ih =>
    unfold LegacySearch.run
    split
    · exact .pure ⟨searching.filled, searching.found⟩
    · rename_i names others next
      exact (searching.turn module next).bind fun _ _ => ih

theorem Searching.room_ne_zero (searching : Searching store platform room search catalog) : room ≠ 0 := by
  rintro rfl
  have listed : search.libraries.map (·.value.file) ⊆ store.files.keys := by
    intro file member
    obtain ⟨library, known, rfl⟩ := List.mem_map.1 member
    exact (searching.filled.read _ _ (searching.found library known)).mem_files
  have bounded := RecordStore.length_le_fileCount searching.once listed
  have fits := searching.fits
  rw [List.length_map] at bounded
  omega

/-- The search of `run`, that goes on with `stuck` where its room ends. -/
def runOr (stuck : LegacySearch → Resolve (List (Shared Module))) (lookup : Lookup Module)
    (platform : Platform) (module : Module) : Nat → LegacySearch → Resolve (List (Shared Module))
  | 0, search => stuck search
  | room + 1, search =>
    match search.frontier with
    | [] => return search.libraries
    | names :: others => do
      let search ← names.foldlM (LegacySearch.find lookup platform module)
        { search with frontier := others }
      runOr stuck lookup platform module room search

theorem Searching.run_eq_runOr (searching : Searching store platform room search catalog) (module : Module)
    (stuck : LegacySearch → Resolve (List (Shared Module))) :
    (LegacySearch.run (Catalog.module store) platform module room search).run.run catalog =
      (runOr stuck (Catalog.module store) platform module room search).run.run catalog := by
  induction room generalizing search catalog with
  | zero => exact absurd rfl searching.room_ne_zero
  | succ room ih =>
    unfold LegacySearch.run runOr
    cases next : search.frontier with
    | nil => rfl
    | cons names others => exact (searching.turn module next).run_bind_congr fun _ _ => ih

end Searching

end Platform.LegacySearch

namespace Platform

structure HasLinked (store : RecordStore) (platform : Platform) (module : Module)
    (libraries : List (Shared Module)) (catalog : Catalog) : Prop where
  filled : FilledFrom store catalog
  kept : ∀ library ∈ libraries, catalog.modules.get? (library.value.file, platform.arch) = some library
  isLibrary : module.isLibrary = true → libraries = []
  links : module.isLibrary = false → module.isLegacy = false →
    ∃ bound, platform.Links module catalog bound libraries

theorem Links.kept {module : Module} {bound : Table String (Shared Module)}
    {libraries : List (Shared Module)} (links : platform.Links module catalog bound libraries)
    (filled : FilledFrom store catalog) :
    ∀ library ∈ libraries, catalog.modules.get? (library.value.file, platform.arch) = some library := by
  intro library member
  obtain ⟨_, found⟩ := (links.exact library).1 member
  exact ((links.instances _ _ found).readFrom filled).2

theorem ends_linked (filled : FilledFrom store catalog) (platform : Platform) (module : Shared Module) :
    Ends (platform.linked store (Catalog.module store) module) catalog
      (HasLinked store platform module.value) := by
  unfold linked
  split
  · rename_i isLibrary
    have nothing : HasLinked store platform module.value [] catalog :=
      ⟨filled, by simp, fun _ => rfl, fun other => absurd isLibrary (by simp [other])⟩
    exact .pure nothing
  · rename_i isLibrary
    split
    · rename_i isLegacy
      refine ((LegacySearch.searching_start filled platform _).run module.value).mono ?_
      rintro libraries after ⟨filled, kept⟩
      exact ⟨filled, kept, fun other => absurd other isLibrary,
        fun _ other => absurd isLegacy (by simp [other])⟩
    · refine (ends_linkLibraries filled platform module).mono ?_
      rintro libraries after ⟨filled, bound, links⟩
      exact ⟨filled, links.kept filled, fun other => absurd other isLibrary, fun _ _ => ⟨bound, links⟩⟩

def linkedOr (classes : LinkSearch → Resolve LinkSearch)
    (names : LegacySearch → Resolve (List (Shared Module))) (store : RecordStore) (lookup : Lookup Module)
    (platform : Platform) (module : Shared Module) : Resolve (List (Shared Module)) :=
  if module.value.isLibrary then return []
  else if module.value.isLegacy then
    LegacySearch.runOr names lookup platform module.value (store.fileCount + 2)
      { frontier := [legacyNames module.value] }
  else do
    let uses := platform.consumedClasses module.value
    let search ← LinkSearch.runOr classes lookup platform module (uses.size + store.rowCount + 2)
      { frontier := [(module, uses)] }
    .ofChecked (search.ordered platform)

/-- Whatever depends on what, linking a module comes to an end. -/
theorem sameFrom_linkedOr (classes : LinkSearch → Resolve LinkSearch)
    (names : LegacySearch → Resolve (List (Shared Module))) (store : RecordStore) (platform : Platform)
    (module : Shared Module) :
    SameFrom (FilledFrom store) (platform.linked store (Catalog.module store) module)
      (linkedOr classes names store (Catalog.module store) platform module) := by
  unfold linked linkedOr
  split
  · exact .refl _
  · split
    · intro catalog filled
      unfold linkLegacy
      rw [(LegacySearch.searching_start filled platform _).run_eq_runOr module.value names]
    · intro catalog filled
      unfold linkLibraries
      dsimp only
      rw [BuildStep.run_bind, BuildStep.run_bind,
        (LinkSearch.searching_start filled platform module).run_eq_runOr classes]

end Platform

end UefiBuild
