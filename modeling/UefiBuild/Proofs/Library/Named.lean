import UefiBuild.Proofs.Catalog.Requests
import UefiBuild.Proofs.Library.Legacy

namespace UefiBuild

open BuildStep (Ends Keeps)

namespace Catalog

variable {store : RecordStore} {earlier catalog : Catalog}

theorem grown_platform (dsc : SourcePath) (arch : String) (sku? : Option String) :
    Keeps (Grown find? earlier) (platform store dsc arch sku?) fun _ => True := by
  have made : Keeps (Grown find? earlier) (do
      .ofChecked (findFile store dsc ".dsc")
      Platform.resolve store (module store) dsc arch sku?) fun _ => True :=
    (Keeps.ofChecked _).bind fun _ _ =>
      (Platform.keeps_resolve grown_module store dsc arch sku?).mono fun _ _ => trivial
  refine .request (fun _ _ _ _ => trivial) made fun catalog grown platform _ => ?_
  exact grown.apart (funext fun request => by cases request <;> rfl) (Nat.le_succ _)

theorem FilledFrom.grown (filled : FilledFrom store catalog) : Grown find? {} catalog := by
  induction filled with
  | empty => exact grown_empty
  | afterWarning _ warning ih => exact (grown_warn warning _ ih).1
  | afterNumber _ ih => exact ih.apart (funext fun request => by cases request <;> rfl) (Nat.le_succ _)
  | afterPackage _ dec arch ih => exact (grown_package dec arch _ ih).1
  | afterModule _ inf arch ih => exact (grown_module inf arch _ ih).1
  | afterPlatform _ dsc arch sku? ih => exact (grown_platform dsc arch sku? _ ih).1

theorem FilledFrom.key_eq_of_serial (filled : FilledFrom store catalog) {key other : SourcePath × String}
    {module another : Shared Module} (here : catalog.modules.get? key = some module)
    (there : catalog.modules.get? other = some another) (same : module.serial = another.serial) :
    key = other := by
  have found : ∀ {key : SourcePath × String} {module : Shared Module}, catalog.modules.get? key = some module →
      catalog.find? (.module key.1 key.2) = some (module.map .module) := by
    intro key module found
    rw [find?, found, Option.map_some]
  obtain ⟨files, archs⟩ := Request.module.inj (filled.grown.distinct _ _ _ _ (found here) (found there) same)
  exact Prod.ext files archs

end Catalog

open Catalog (FilledFrom Follows)

namespace Platform

variable {store : RecordStore} {platform : Platform} {module : Module} {catalog after : Catalog}

/-- A name stands for the library that is listed under it, else for the first one whose name differs from
it only in case. -/
def NamesLibrary (platform : Platform) (name : String) (file : SourcePath) : Prop :=
  platform.bindings.legacy.get? name = some file ∨
    platform.bindings.legacy.get? name = none ∧ ∃ earlier key later,
      platform.bindings.legacy.entries = earlier ++ (key, file) :: later ∧
        Text.sameIgnoringAsciiCase key name ∧ ∀ other ∈ earlier, ¬ Text.sameIgnoringAsciiCase other.1 name

theorem legacyLibrary?_eq_some_iff {name : String} {file : SourcePath} :
    platform.legacyLibrary? name = some file ↔ platform.NamesLibrary name file := by
  simp only [legacyLibrary?, NamesLibrary, Option.or_eq_some_iff, Option.map_eq_some_iff,
    List.find?_eq_some_iff_append, Bool.not_eq_true', Bool.not_eq_true]
  refine or_congr_right (and_congr_right fun _ => ⟨?_, ?_⟩)
  · rintro ⟨⟨key, _⟩, ⟨same, earlier, later, entries, others⟩, rfl⟩
    exact ⟨earlier, key, later, entries, same, others⟩
  · rintro ⟨earlier, key, later, entries, same, others⟩
    exact ⟨(key, file), ⟨same, earlier, later, entries, others⟩, rfl⟩

/-- The libraries that a module names, and those that they name in turn. A module that names any library
also names the one of the compiler. -/
inductive Named (platform : Platform) (module : Module) (catalog : Catalog) : SourcePath → Prop
  | own {name file} (use : name ∈ module.libraryNames) (stands : platform.NamesLibrary name file) :
    Named platform module catalog file
  | stub {file} (naming : module.libraryNames ≠ []) (stands : platform.NamesLibrary compilerStub file) :
    Named platform module catalog file
  | through {consumer library name file} (named : Named platform module catalog consumer)
    (found : catalog.modules.get? (consumer, platform.arch) = some library)
    (use : name ∈ library.value.libraryNames) (stands : platform.NamesLibrary name file) :
    Named platform module catalog file

structure LinksNamed (platform : Platform) (module : Module) (catalog : Catalog)
    (libraries : List (Shared Module)) : Prop where
  exact : ∀ file, platform.Named module catalog file ↔ ∃ library ∈ libraries, library.value.file = file
  kept : ∀ library ∈ libraries, catalog.modules.get? (library.value.file, platform.arch) = some library
  once : (libraries.map (·.value.file)).Nodup

theorem mem_legacyNames {name : String} :
    name ∈ legacyNames module ↔
      name ∈ module.libraryNames ∨ module.libraryNames ≠ [] ∧ name = compilerStub := by
  unfold legacyNames
  split
  · rename_i none
    simp [none]
  · rename_i some
    simp [some]

theorem Named.of_legacyNames {name : String} {file : SourcePath} (use : name ∈ legacyNames module)
    (stands : platform.NamesLibrary name file) : platform.Named module catalog file := by
  rcases mem_legacyNames.1 use with own | ⟨naming, rfl⟩
  · exact .own own stands
  · exact .stub naming stands

theorem Named.mono
    (kept : ∀ key module, catalog.modules.get? key = some module → after.modules.get? key = some module)
    {file : SourcePath} (named : platform.Named module catalog file) : platform.Named module after file := by
  induction named with
  | own use stands => exact .own use stands
  | stub naming stands => exact .stub naming stands
  | through _ found use stands ih => exact .through ih (kept _ _ found) use stands

namespace LegacySearch

def Met (platform : Platform) (left : List String) (search : LegacySearch) (name : String) : Prop :=
  (∃ names ∈ left :: search.frontier, name ∈ names) ∨
    ∀ file, platform.NamesLibrary name file → ∃ library ∈ search.libraries, library.value.file = file

structure Naming (platform : Platform) (module : Module) (left : List String) (search : LegacySearch)
    (catalog : Catalog) : Prop where
  named : ∀ library ∈ search.libraries, platform.Named module catalog library.value.file
  asked : ∀ names ∈ left :: search.frontier, ∀ name ∈ names, ∀ file, platform.NamesLibrary name file →
    platform.Named module catalog file
  own : ∀ name ∈ legacyNames module, search.Met platform left name
  closed : ∀ library ∈ search.libraries, ∀ name ∈ library.value.libraryNames, search.Met platform left name

variable {room : Nat} {left : List String} {name : String} {search : LegacySearch}

theorem naming_start (platform : Platform) (module : Module) (catalog : Catalog) :
    Naming platform module [] { frontier := [legacyNames module] } catalog where
  named _ member := nomatch member
  asked names listed name use file stands := by
    simp only [List.mem_cons, List.not_mem_nil, or_false] at listed
    rcases listed with rfl | rfl
    · cases use
    · exact .of_legacyNames use stands
  own name use := .inl ⟨legacyNames module, by simp, use⟩
  closed _ member := nomatch member

theorem Naming.pop {names : List String} {others : List (List String)}
    (naming : Naming platform module [] search catalog) (next : search.frontier = names :: others) :
    Naming platform module names { search with frontier := others } catalog := by
  have met : ∀ name, search.Met platform [] name →
      Met platform names { search with frontier := others } name := by
    intro name
    refine Or.imp_left ?_
    rintro ⟨waiting, listed, use⟩
    rw [next] at listed
    rcases List.mem_cons.1 listed with rfl | later
    · cases use
    · exact ⟨waiting, later, use⟩
  refine ⟨naming.named, fun waiting listed => naming.asked waiting ?_,
    fun name use => met name (naming.own name use),
    fun library member name use => met name (naming.closed library member name use)⟩
  rw [next]
  exact List.mem_cons_of_mem _ listed

theorem Met.looked {next : LegacySearch} {other : String} (met : search.Met platform (name :: left) other)
    (libraries : search.libraries ⊆ next.libraries) (frontier : search.frontier ⊆ next.frontier)
    (done : ∀ file, platform.NamesLibrary name file → ∃ library ∈ next.libraries, library.value.file = file) :
    next.Met platform left other := by
  rcases met with ⟨names, listed, use⟩ | found
  · rcases List.mem_cons.1 listed with rfl | waiting
    · rcases List.mem_cons.1 use with rfl | later
      · exact .inr done
      · exact .inl ⟨left, by simp, later⟩
    · exact .inl ⟨names, List.mem_cons_of_mem left (frontier waiting), use⟩
  · refine .inr fun file stands => ?_
    obtain ⟨library, member, same⟩ := found file stands
    exact ⟨library, libraries member, same⟩

variable (naming : Naming platform module (name :: left) search catalog)
  (kept : ∀ key module, catalog.modules.get? key = some module → after.modules.get? key = some module)
include naming kept

theorem Naming.pass
    (done : ∀ file, platform.NamesLibrary name file →
      ∃ library ∈ search.libraries, library.value.file = file) :
    Naming platform module left search after where
  named library member := (naming.named library member).mono kept
  asked names listed other use file stands := by
    refine Named.mono kept ?_
    rcases List.mem_cons.1 listed with rfl | waiting
    · exact naming.asked (name :: names) (by simp) other (List.mem_cons_of_mem name use) file stands
    · exact naming.asked names (List.mem_cons_of_mem _ waiting) other use file stands
  own other use := (naming.own other use).looked (List.Subset.refl _) (List.Subset.refl _) done
  closed library member other use :=
    (naming.closed library member other use).looked (List.Subset.refl _) (List.Subset.refl _) done

theorem Naming.add {library : Shared Module} (stands : platform.NamesLibrary name library.value.file)
    (found : after.modules.get? (library.value.file, platform.arch) = some library)
    (only : ∀ file, platform.NamesLibrary name file → file = library.value.file) :
    Naming platform module left
      { libraries := search.libraries ++ [library], frontier := library.value.libraryNames :: search.frontier }
      after := by
  have named : platform.Named module after library.value.file :=
    (naming.asked (name :: left) (by simp) name (by simp) _ stands).mono kept
  have done : ∀ file, platform.NamesLibrary name file →
      ∃ other ∈ search.libraries ++ [library], other.value.file = file :=
    fun file stands => ⟨library, by simp, (only file stands).symm⟩
  refine ⟨?_, ?_, fun other use => ?_, ?_⟩
  · intro other member
    rcases List.mem_append.1 member with old | new
    · exact (naming.named other old).mono kept
    · exact List.mem_singleton.1 new ▸ named
  · intro names listed other use file stands
    simp only [List.mem_cons] at listed
    rcases listed with rfl | rfl | waiting
    · exact (naming.asked (name :: names) (by simp) other (List.mem_cons_of_mem name use) file stands).mono kept
    · exact .through named found use stands
    · exact (naming.asked names (List.mem_cons_of_mem _ waiting) other use file stands).mono kept
  · exact (naming.own other use).looked (by simp) (by simp) done
  · intro other member name use
    rcases List.mem_append.1 member with old | new
    · exact (naming.closed other old name use).looked (by simp) (by simp) done
    · rw [List.mem_singleton.1 new] at use
      exact .inl ⟨library.value.libraryNames, by simp, use⟩

omit kept

theorem Naming.find (searching : Searching store platform room search catalog) :
    Ends (LegacySearch.find (Catalog.module store) platform module search name) catalog fun next after =>
      Searching store platform room next after ∧ Naming platform module left next after := by
  refine (searching.find module name).and ?_
  unfold LegacySearch.find
  split
  · rename_i unknown
    refine (searching.filled.ends_warn _).bind fun _ after ⟨_, same⟩ => .pure ?_
    refine naming.pass (fun key module => same ▸ id) fun file stands => ?_
    rw [legacyLibrary?_eq_some_iff.2 stands] at unknown
    cases unknown
  · rename_i file known
    refine (searching.filled.ends_module file platform.arch).bind ?_
    rintro library after ⟨filled, follows, here⟩
    have named : library.value.file = file := (filled.read _ _ here).file_eq
    have only : ∀ other, platform.NamesLibrary name other → other = file := fun other stands =>
      Option.some.inj ((legacyLibrary?_eq_some_iff.2 stands).symm.trans known)
    split
    · rename_i old
      obtain ⟨other, member, same⟩ := List.any_eq_true.1 old
      -- The library is among those found, since no other has its serial.
      have there := follows.kept _ _ (searching.found other member)
      have keys := filled.key_eq_of_serial there here (by simpa using same)
      refine .pure (naming.pass follows.kept fun file stands => ⟨other, member, ?_⟩)
      rw [only file stands, ← (Prod.mk.inj keys).1]
    · rw [← named] at here known only
      exact .pure (naming.add follows.kept (legacyLibrary?_eq_some_iff.1 known) here only)

omit naming

theorem Naming.turn {names : List String} {others : List (List String)}
    (searching : Searching store platform (room + 1) search catalog)
    (naming : Naming platform module [] search catalog) (next : search.frontier = names :: others) :
    Ends (names.foldlM (LegacySearch.find (Catalog.module store) platform module)
        { search with frontier := others }) catalog fun search after =>
      Searching store platform room search after ∧ Naming platform module [] search after := by
  let looking (left : List String) (search : LegacySearch) (catalog : Catalog) : Prop :=
    Searching store platform room search catalog ∧ Naming platform module left search catalog
  have first : looking names { search with frontier := others } catalog :=
    ⟨searching.pop next, naming.pop next⟩
  exact Ends.foldlM first fun name left search catalog ⟨searching, naming⟩ => naming.find searching

theorem Naming.links (searching : Searching store platform room search catalog)
    (naming : Naming platform module [] search catalog) (done : search.frontier = []) :
    platform.LinksNamed module catalog search.libraries := by
  have found : ∀ name, search.Met platform [] name → ∀ file, platform.NamesLibrary name file →
      ∃ library ∈ search.libraries, library.value.file = file := by
    rintro name (⟨names, listed, use⟩ | met)
    · rw [done, List.mem_singleton] at listed
      exact absurd (listed ▸ use) List.not_mem_nil
    · exact met
  refine ⟨fun file => ⟨fun named => ?_, ?_⟩, searching.found, searching.once⟩
  · induction named with
    | own use stands => exact found _ (naming.own _ (mem_legacyNames.2 (.inl use))) _ stands
    | stub some stands => exact found _ (naming.own _ (mem_legacyNames.2 (.inr ⟨some, rfl⟩))) _ stands
    | through _ here use stands ih =>
      obtain ⟨consumer, member, rfl⟩ := ih
      obtain rfl := Option.some.inj ((searching.found consumer member).symm.trans here)
      exact found _ (naming.closed consumer member _ use) _ stands
  · rintro ⟨library, member, rfl⟩
    exact naming.named library member

theorem Naming.run (searching : Searching store platform room search catalog)
    (naming : Naming platform module [] search catalog) :
    Ends (run (Catalog.module store) platform module room search) catalog fun libraries after =>
      platform.LinksNamed module after libraries := by
  induction room generalizing search catalog with
  | zero => exact .throw _
  | succ room ih =>
    unfold LegacySearch.run
    split
    · rename_i done
      exact .pure (naming.links searching done)
    · rename_i names others next
      exact (naming.turn searching next).bind fun _ _ ⟨searching, naming⟩ => ih searching naming

end LegacySearch

/-- A module of the older format is linked with the libraries that are named, and the search for them ends,
however they name each other. -/
theorem linkLegacy_links_named (filled : FilledFrom store catalog) (platform : Platform)
    (module : Shared Module) :
    (∀ libraries after,
      (platform.linkLegacy store (Catalog.module store) module).run.run catalog = (.ok libraries, after) →
        platform.LinksNamed module.value after libraries) ∧
      ∀ stuck : LegacySearch → Resolve (List (Shared Module)),
        let start : LegacySearch := { frontier := [legacyNames module.value] }
        (platform.linkLegacy store (Catalog.module store) module).run.run catalog =
          (LegacySearch.runOr stuck (Catalog.module store) platform module.value (store.fileCount + 2)
            start).run.run catalog := by
  have searching := LegacySearch.searching_start filled platform (legacyNames module.value)
  have naming := LegacySearch.naming_start platform module.value catalog
  exact ⟨naming.run searching, searching.run_eq_runOr module.value⟩

def namingStore : RecordStore :=
  let library (name : String) (others : List String) : List (Section × Record) := [
    (.defines, { values := ["COMPONENT_TYPE", "LIBRARY"] }),
    (.defines, { values := ["BASE_NAME", name] })] ++
    others.map fun other => (.libraryInstances, { values := [other] })
  { files := .ofList [(.ofText "A.inf", library "LibA" ["LIBB", "Unknown"]),
      (.ofText "B.inf", library "LibB" ["liba", "libb"]),
      (.ofText "Stub.inf", library "CompilerStub" [])] }

def namingPlatform : Platform where
  file := .ofText "P.dsc"
  arch := "X64"
  skuName := "DEFAULT"
  skuIds := ∅
  bindings := { legacy := .ofList [("LibA", .ofText "A.inf"), ("LibB", .ofText "B.inf"),
    ("CompilerStub", .ofText "Stub.inf"), ("libB", .ofText "Other.inf")] }

def namingApp : Shared Module where
  serial := 0
  value := {
    file := .ofText "App.inf"
    arch := "X64"
    type := .uefiApplication
    buildType := "APPLICATION"
    libraryNames := ["LibA"] }

theorem linkLegacy_naming :
    ∃ libraries after,
      (namingPlatform.linkLegacy namingStore (Catalog.module namingStore) namingApp).run.run {} =
          (.ok libraries, after) ∧
        libraries.map (·.value.file.text) = ["A.inf", "Stub.inf", "B.inf"] ∧
        namingPlatform.LinksNamed namingApp.value after libraries := by
  have shown : ((namingPlatform.linkLegacy namingStore (Catalog.module namingStore) namingApp).run.run
      {}).1.toOption.map (fun libraries => libraries.map (·.value.file.text)) =
      some ["A.inf", "Stub.inf", "B.inf"] := by decide +kernel
  obtain ⟨libraries, after, ran, files⟩ := BuildStep.exists_of_toOption shown
  have linked := (linkLegacy_links_named FilledFrom.empty namingPlatform namingApp).1 libraries after ran
  exact ⟨libraries, after, ran, files, linked⟩

end Platform

end UefiBuild
