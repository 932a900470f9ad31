import UefiBuild.Library.Legacy
import UefiBuild.Proofs.Step

namespace UefiBuild

open BuildStep (Keeps)

variable {inv : Catalog → Prop} {good : Shared Module → Prop} {lookup : Lookup Module}

namespace LinkSearch

structure All (good : Shared Module → Prop) (search : LinkSearch) : Prop where
  libraries : ∀ file library, search.libraries.get? file = some library → good library
  bound : ∀ libraryClass library, search.bound.get? libraryClass = some library → good library
  frontier : ∀ entry ∈ search.frontier, good entry.1

theorem All.addLibrary {search : LinkSearch} (all : search.All good) {library : Shared Module}
    (holds : good library) : (search.addLibrary library).All good := by
  refine ⟨fun file other found => ?_, all.bound, all.frontier⟩
  rw [LinkSearch.addLibrary, Table.get?_update] at found
  split at found
  · obtain rfl := Option.some.inj found
    cases known : search.libraries.get? library.value.file with
    | none => exact holds
    | some old => exact all.libraries _ old known
  · exact all.libraries file other found

theorem All.addUse {search : LinkSearch} (all : search.All good) (module : Shared Module)
    {consumer library : Shared Module} (consumes : good consumer) (holds : good library) :
    (search.addUse module consumer library).All good := by
  have both := (all.addLibrary holds).addLibrary consumes
  unfold LinkSearch.addUse
  dsimp only
  split
  · exact all.addLibrary holds
  · exact ⟨both.libraries, both.bound, both.frontier⟩

section Search

variable (lookups : ∀ file arch, Keeps inv (lookup file arch) good)
  (platform : Platform) (module : Shared Module)
include lookups

theorem keeps_bind {search : LinkSearch} (all : search.All good) (consumer : Shared Module)
    (libraryClass : String) (suggested : Option SourcePath) :
    Keeps inv (bind lookup platform module consumer search libraryClass suggested) fun found =>
      found.1.All good ∧ good found.2 := by
  unfold bind
  split
  · rename_i file chosen
    rw [pure_bind]
    refine (lookups file platform.arch).bind fun library holds => ?_
    split
    · exact .throw _
    · refine .pure ⟨⟨all.libraries, fun other bound found => ?_, fun entry member => ?_⟩, holds⟩
      · rw [Table.get?_insert] at found
        split at found
        · obtain rfl := Option.some.inj found
          exact holds
        · exact all.bound other bound found
      · rcases List.mem_cons.1 member with rfl | old
        · exact holds
        · exact all.frontier entry old
  · exact .throw _

theorem keeps_consume {search : LinkSearch} (all : search.All good) {consumer : Shared Module}
    (consumes : good consumer) (use : String × Option SourcePath) :
    Keeps inv (consume lookup platform module consumer search use) (All good) := by
  unfold consume
  split
  · rename_i library known
    rw [pure_bind]
    exact .pure (all.addUse module consumes (all.bound use.1 library known))
  · exact (keeps_bind lookups platform module all consumer use.1 use.2).bind
      fun ⟨next, library⟩ ⟨all, holds⟩ => .pure (all.addUse module consumes holds)

theorem keeps_run (room : Nat) {search : LinkSearch} (all : search.All good) :
    Keeps inv (run lookup platform module room search) (All good) := by
  induction room generalizing search with
  | zero => exact .throw _
  | succ room ih =>
    unfold run
    split
    · exact .pure all
    · rename_i consumer classes others waiting
      have consumes : good consumer := all.frontier (consumer, classes) (by simp [waiting])
      have rest : LinkSearch.All good { search with frontier := others } :=
        ⟨all.libraries, all.bound, fun entry member => all.frontier entry (by simp [waiting, member])⟩
      refine (Keeps.foldlM rest fun search use _ all => ?_).bind fun search all => ih all
      exact keeps_consume lookups platform module all consumes use

end Search

theorem all_of_ordered {search : LinkSearch} (all : search.All good) {platform : Platform}
    {libraries : List (Shared Module)} (ok : search.ordered platform = .ok libraries) :
    ∀ library ∈ libraries, good library := by
  unfold ordered at ok
  split at ok
  · cases ok
  · obtain rfl := Except.ok.inj ok
    intro library member
    obtain ⟨file, -, found⟩ := List.mem_filterMap.1 member
    exact all.libraries file library found

end LinkSearch

namespace Platform

namespace LegacySearch

def All (good : Shared Module → Prop) (search : LegacySearch) : Prop :=
  ∀ library ∈ search.libraries, good library

section Search

variable (lookups : ∀ file arch, Keeps inv (lookup file arch) good)
  (warned : ∀ warning, Keeps inv (Catalog.warn warning) fun _ => True) (platform : Platform)
  (module : Module)
include lookups warned

theorem keeps_find {search : LegacySearch} (all : search.All good) (name : String) :
    Keeps inv (find lookup platform module search name) (All good) := by
  unfold find
  split
  · exact (warned _).bind fun _ _ => .pure all
  · rename_i file found
    refine (lookups file platform.arch).bind fun library holds => ?_
    split
    · exact .pure all
    · refine .pure fun other member => ?_
      rcases List.mem_append.1 member with old | new
      · exact all other old
      · rwa [List.mem_singleton.1 new]

theorem keeps_run (room : Nat) {search : LegacySearch} (all : search.All good) :
    Keeps inv (run lookup platform module room search) fun libraries =>
      ∀ library ∈ libraries, good library := by
  induction room generalizing search with
  | zero => exact .throw _
  | succ room ih =>
    unfold run
    split
    · exact .pure all
    · rename_i names others _
      have rest : LegacySearch.All good { search with frontier := others } := all
      refine (Keeps.foldlM rest fun search name _ all => ?_).bind fun search all => ih all
      exact keeps_find lookups warned platform module all name

end Search

end LegacySearch

theorem keeps_linked (lookups : ∀ file arch, Keeps inv (lookup file arch) good)
    (warned : ∀ warning, Keeps inv (Catalog.warn warning) fun _ => True) (store : RecordStore)
    (platform : Platform) {module : Shared Module} (holds : good module) :
    Keeps inv (platform.linked store lookup module) fun libraries =>
      ∀ library ∈ libraries, good library := by
  unfold linked
  split
  · exact .pure fun _ member => nomatch member
  · split
    · exact LegacySearch.keeps_run lookups warned platform module.value _ fun _ member => nomatch member
    · have start : LinkSearch.All good
          { frontier := [(module, platform.consumedClasses module.value)] } := by
        refine ⟨fun _ _ found => by simp at found, fun _ _ found => by simp at found, ?_⟩
        simpa using holds
      refine (LinkSearch.keeps_run lookups platform module _ start).bind fun search all => ?_
      exact (Keeps.ofChecked _).mono fun libraries ordered => LinkSearch.all_of_ordered all ordered

end Platform

end UefiBuild
