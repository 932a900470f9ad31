import UefiBuild.Proofs.Catalog.References
import UefiBuild.Proofs.Library.Legacy
import UefiBuild.Proofs.Library.Linked
import UefiBuild.Proofs.Workspace.Contexts

namespace UefiBuild

open BuildStep (Ends Keeps SameFrom)
open Catalog (FilledFrom)
open Relation (TransGen)

namespace Platform

variable {store : RecordStore} {platform : Platform} {file other last : SourcePath}

def LinkedWith (store : RecordStore) (platform : Platform) (file : SourcePath)
    (libraries : List (Shared Module)) : Prop :=
  ∃ catalog module between after, FilledFrom store catalog ∧
    (Catalog.module store file platform.arch).run.run catalog = (.ok module, between) ∧
    (platform.linked store (Catalog.module store) module).run.run between = (.ok libraries, after)

/-- The context of a module needs that of another one. -/
def Needs (store : RecordStore) (platform : Platform) (file other : SourcePath) : Prop :=
  ∃ libraries, platform.LinkedWith store file libraries ∧ ∃ library ∈ libraries, library.value.file = other

/-- A module is linked with another one that is no library. Only forced instances and libraries of the
older format are not checked for that. -/
def Embeds (store : RecordStore) (platform : Platform) (file other : SourcePath) : Prop :=
  ∃ libraries, platform.LinkedWith store file libraries ∧
    ∃ library ∈ libraries, library.value.file = other ∧ library.value.isLibrary = false

theorem LinkedWith.hasLinked {libraries : List (Shared Module)}
    (linked : platform.LinkedWith store file libraries) :
    ∃ (module : Module) (catalog : Catalog), module.ReadFrom store file platform.arch ∧
      HasLinked store platform module libraries catalog := by
  obtain ⟨catalog, module, between, after, filled, looked, linked⟩ := linked
  obtain ⟨filled, -, found⟩ := filled.ends_module file platform.arch module between looked
  exact ⟨module.value, after, filled.read _ _ found, ends_linked filled platform module libraries after linked⟩

theorem HasLinked.read {module : Module} {libraries : List (Shared Module)} {catalog : Catalog}
    {library : Shared Module} (linked : HasLinked store platform module libraries catalog)
    (member : library ∈ libraries) :
    module.isLibrary = false ∧ library.value.ReadFrom store library.value.file platform.arch := by
  refine ⟨?_, linked.filled.read _ _ (linked.kept library member)⟩
  by_contra isLibrary
  rw [linked.isLibrary (by simpa using isLibrary)] at member
  cases member

theorem Needs.known (needs : platform.Needs store file other) : file ∈ store.files.keys := by
  obtain ⟨libraries, linked, -⟩ := needs
  obtain ⟨module, catalog, read, -⟩ := linked.hasLinked
  exact read.mem_files

theorem Embeds.unchecked (embeds : platform.Embeds store file other) :
    ∃ module : Module, module.ReadFrom store file platform.arch ∧ module.isLibrary = false ∧
      (module.isLegacy = true ∨ ∃ catalog bound libraries, FilledFrom store catalog ∧
        platform.Links module catalog bound libraries ∧ ∃ libraryClass library,
          isForcedClass libraryClass = true ∧ bound.get? libraryClass = some library ∧
            library.value.file = other ∧ library.value.isLibrary = false) := by
  obtain ⟨libraries, linked, library, member, same, embedded⟩ := embeds
  obtain ⟨module, catalog, read, hasLinked⟩ := linked.hasLinked
  have consumes := (hasLinked.read member).1
  refine ⟨module, read, consumes, ?_⟩
  cases current : module.isLegacy with
  | true => exact .inl rfl
  | false =>
    obtain ⟨bound, links⟩ := hasLinked.links consumes current
    obtain ⟨libraryClass, found⟩ := (links.exact library).1 member
    refine .inr ⟨catalog, bound, libraries, hasLinked.filled, links, libraryClass, library, ?_, found, same,
      embedded⟩
    by_contra asked
    obtain ⟨first, provided, -⟩ := (links.instances _ _ found).serves (by simpa using asked)
    have none : library.value.provided = [] := by simpa [Module.isLibrary] using embedded
    simp [none] at provided

theorem Needs.embeds (needs : platform.Needs store file other) (more : platform.Needs store other last) :
    platform.Embeds store file other := by
  obtain ⟨libraries, linked, library, member, rfl⟩ := needs
  obtain ⟨_, linkedMore, _, memberMore, -⟩ := more
  obtain ⟨_, _, -, hasLinked⟩ := linked.hasLinked
  obtain ⟨module, _, read, hasLinkedMore⟩ := linkedMore.hasLinked
  have same := (hasLinked.read member).2.toModuleHeader_eq read
  refine ⟨libraries, linked, library, member, rfl, ?_⟩
  rw [Module.isLibrary, same]
  exact (hasLinkedMore.read memberMore).1

theorem embeds_of_needs (chain : TransGen (platform.Needs store) file other)
    (more : platform.Needs store other last) : TransGen (platform.Embeds store) file other := by
  induction chain generalizing last with
  | single needs => exact .single (needs.embeds more)
  | tail _ needs ih => exact (ih needs).tail (needs.embeds more)

theorem not_needs_itself (acyclic : ∀ file, ¬ TransGen (platform.Embeds store) file file)
    (file : SourcePath) : ¬ TransGen (platform.Needs store) file file := by
  intro chain
  obtain ⟨other, first, -⟩ := TransGen.head'_iff.1 chain
  exact acyclic file (embeds_of_needs chain first)

end Platform

namespace BuildState

variable {store : RecordStore} {α : Type}

def Filled (store : RecordStore) (state : BuildState) : Prop := FilledFrom store state.catalog

theorem run_resolving (step : Resolve α) (state : BuildState) :
    (Build.resolving step).run.run state =
      ((step.run.run state.catalog).1, { state with catalog := (step.run.run state.catalog).2 }) := rfl

theorem resolving_eq_ok {step : Resolve α} {state after : BuildState} {a : α}
    (ran : (Build.resolving step).run.run state = (.ok a, after)) :
    step.run.run state.catalog = (.ok a, after.catalog) := by
  obtain ⟨ok, rfl⟩ := Prod.mk.inj ran
  exact Prod.ext ok rfl

theorem fills_resolving {step : Resolve α} {post : α → Prop} (keeps : Keeps (FilledFrom store) step post) :
    Keeps (Filled store) (Build.resolving step) post := fun state filled => keeps state.catalog filled

theorem sameFrom_resolving {step other : Resolve α} (same : SameFrom (FilledFrom store) step other) :
    SameFrom (Filled store) (Build.resolving step) (Build.resolving other) := by
  intro state filled
  rw [run_resolving, run_resolving, same state.catalog filled]

end BuildState

/-- Where to go on when a build would go on without end: at a dependency expression, in a search for
classes or for names, or at a context. -/
structure Detours where
  reference : SourcePath → Resolve (Shared Module)
  classes : LinkSearch → Resolve LinkSearch
  names : Platform.LegacySearch → Resolve (List (Shared Module))
  context : SourcePath → Build (Shared ModuleContext)

namespace Workspace

open BuildState (Filled fills_resolving sameFrom_resolving)

section Detours

variable (workspace : Workspace) (platform : PlatformContext) (detours : Detours)

def moduleOr (file : SourcePath) : Build (Shared Module) :=
  .resolving (Catalog.moduleOr detours.reference workspace.store file platform.arch)

def linkedOr (module : Shared Module) : Build (List (Shared Module)) :=
  .resolving (Platform.linkedOr detours.classes detours.names workspace.store
    (Catalog.moduleOr detours.reference workspace.store) platform.data module)

def platformPackagesOr : Build (Shared (List (Shared Package))) :=
  BuildState.packageShelf.request (workspace.key .packages platform.arch platform.file) do
    let groups ← platform.data.components.keys.mapM fun file => do
      let module ← workspace.moduleOr platform detours file
      let libraries ← workspace.linkedOr platform detours module
      return (module :: libraries).flatMap (·.value.packages)
    return ModuleContext.distinctPackages groups.flatten

/-- Makes contexts as `moduleContextWithin` does, but takes a detour when a context is asked for that is
being made already, or too deep down, or when anything else would not come to an end. -/
def moduleContextOr : Nat → List SourcePath → SourcePath → Build (Shared ModuleContext)
  | 0, _ => fun file => detours.context file
  | depth + 1, along => fun file =>
    if file ∈ along then detours.context file
    else BuildState.moduleShelf.request (workspace.key .module platform.arch file) do
      let module ← workspace.moduleOr platform detours file
      let libraries ← workspace.linkedOr platform detours module
      let libraries ← libraries.mapM fun library => do
        let context ← moduleContextOr depth (file :: along) library.value.file
        return { library, context := context.serial, own := context.value.module : LinkedLibrary }
      let packages ← workspace.platformPackagesOr platform detours
      .ofChecked (ModuleContext.make platform module libraries (packages.value.map Shared.value)
        (← get).disk)

end Detours

section Filled

variable {workspace : Workspace} {platform : PlatformContext}

theorem fills_module (file : SourcePath) :
    Keeps (Filled workspace.store) (workspace.module file platform.arch) fun _ => True :=
  fills_resolving fun _ filled => ⟨filled.afterModule file platform.arch, fun _ _ => trivial⟩

theorem fills_linked (module : Shared Module) (_ : True) :
    Keeps (Filled workspace.store) (workspace.linked platform.data module) fun libraries =>
      ∀ library ∈ libraries, True := by
  have lookups : ∀ file arch, Keeps (FilledFrom workspace.store)
      (Catalog.module workspace.store file arch) fun _ => True :=
    fun file arch _ filled => ⟨filled.afterModule file arch, fun _ _ => trivial⟩
  have warned : ∀ warning, Keeps (FilledFrom workspace.store) (Catalog.warn warning) fun _ => True :=
    fun warning _ filled => ⟨filled.afterWarning warning, fun _ _ => trivial⟩
  exact fills_resolving (Platform.keeps_linked lookups warned workspace.store platform.data trivial)

theorem fills_platformPackages :
    Keeps (Filled workspace.store) (workspace.platformPackages platform) fun _ => True :=
  keeps_platformPackages_of fills_module fills_linked fun _ filled _ => filled.afterNumber

theorem fills_moduleContextWithin (depth : Nat) (file : SourcePath) :
    Keeps (Filled workspace.store) (workspace.moduleContextWithin platform depth file) fun _ => True :=
  keeps_moduleContextWithin_of fills_module fills_linked (fun _ => True) fills_platformPackages
    (fun _ _ _ _ _ => trivial) (fun _ _ _ _ _ _ _ _ => trivial)
    (fun _ filled _ _ _ => filled.afterNumber) depth file

end Filled

theorem linkedWith_of_run {workspace : Workspace} {platform : PlatformContext}
    (archSame : platform.data.arch = platform.arch) {file : SourcePath} {module : Shared Module}
    {libraries : List (Shared Module)} {state between after : BuildState}
    (filled : Filled workspace.store state)
    (looked : (workspace.module file platform.arch).run.run state = (.ok module, between))
    (linked : (workspace.linked platform.data module).run.run between = (.ok libraries, after)) :
    platform.data.LinkedWith workspace.store file libraries := by
  have looked := BuildState.resolving_eq_ok looked
  rw [← archSame] at looked
  exact ⟨_, module, _, _, filled, looked, BuildState.resolving_eq_ok linked⟩

section Nesting

variable {workspace : Workspace} {platform : PlatformContext}
  (references : ∀ arch file, ¬ TransGen (Module.Refers workspace.store arch) file file)
  (detours : Detours)
include references

theorem moduleOr_eq : workspace.moduleOr platform detours = (workspace.module · platform.arch) := by
  funext file
  rw [moduleOr, ← Catalog.module_eq_moduleOr detours.reference references, module]

theorem sameFrom_linkedOr (module : Shared Module) :
    SameFrom (Filled workspace.store) (workspace.linked platform.data module)
      (workspace.linkedOr platform detours module) := by
  rw [linkedOr, ← Catalog.module_eq_moduleOr detours.reference references]
  exact sameFrom_resolving (Platform.sameFrom_linkedOr detours.classes detours.names workspace.store
    platform.data module)

theorem sameFrom_platformPackagesOr :
    SameFrom (Filled workspace.store) (workspace.platformPackages platform)
      (workspace.platformPackagesOr platform detours) := by
  unfold platformPackages platformPackagesOr
  rw [moduleOr_eq references]
  have fills : ∀ file ∈ platform.data.components.keys, Keeps (Filled workspace.store) (do
      let module ← workspace.module file platform.arch
      let libraries ← workspace.linked platform.data module
      return (module :: libraries).flatMap (·.value.packages)) fun _ => True := fun file _ =>
    (fills_module file).bind fun module _ => (fills_linked module trivial).bind fun _ _ => .pure trivial
  refine .request _ (SameFrom.bind_left (.mapM fills fun file _ => ?_) _)
  refine (fills_module file).sameFrom_bind fun module _ => ?_
  exact (sameFrom_linkedOr references detours module).bind_left _

theorem sameFrom_moduleContextOr (archSame : platform.data.arch = platform.arch)
    (acyclic : ∀ file, ¬ TransGen (platform.data.Needs workspace.store) file file) {depth : Nat}
    {along : List SourcePath} {file : SourcePath}
    (descent : Descent workspace.store (platform.data.Needs workspace.store) along file depth) :
    SameFrom (Filled workspace.store) (workspace.moduleContextWithin platform depth file)
      (workspace.moduleContextOr platform detours depth along file) := by
  induction depth generalizing along file with
  | zero => exact absurd rfl descent.depth_ne_zero
  | succ depth ih =>
    unfold moduleContextWithin moduleContextOr
    rw [if_neg (descent.not_mem acyclic), moduleOr_eq references]
    -- That the libraries are needed is known from the runs, so the two builds are followed from one state.
    intro state filled
    refine BuildStep.run_request_congr _ (Ends.run_bind_congr (fun _ _ => id) fun module between looked => ?_)
    have keptBetween := ((fills_module file).ends filled module between looked).1
    rw [← (sameFrom_linkedOr references detours module).bind_left _ between keptBetween]
    refine Ends.run_bind_congr (fun _ _ => id) fun libraries after linked => ?_
    have keptAfter := ((fills_linked module trivial).ends keptBetween libraries after linked).1
    have needs : ∀ library ∈ libraries, platform.data.Needs workspace.store file library.value.file :=
      fun library member =>
        ⟨libraries, linkedWith_of_run archSame filled looked linked, library, member, rfl⟩
    have fills : ∀ library ∈ libraries, Keeps (Filled workspace.store)
        (linkContext (workspace.moduleContextWithin platform depth) library) _ :=
      fun library _ => keeps_linkContext (fills_moduleContextWithin depth library.value.file)
    have contexts : ∀ library ∈ libraries, SameFrom (Filled workspace.store)
        (linkContext (workspace.moduleContextWithin platform depth) library)
        (linkContext (workspace.moduleContextOr platform detours depth (file :: along)) library) := by
      intro library member
      have needed := needs library member
      exact (ih (descent.next acyclic needed.known needed)).bind_left _
    refine (SameFrom.mapM fills contexts).bind (.mapM fills) (fun linked _ => ?_) after keptAfter
    exact (sameFrom_platformPackagesOr references detours).bind_left _

end Nesting

section Trapped

variable {workspace : Workspace} {platform : PlatformContext} {trapped : SourcePath → Prop}

def Unmade (workspace : Workspace) (platform : PlatformContext) (trapped : SourcePath → Prop)
    (state : BuildState) : Prop :=
  Filled workspace.store state ∧ ∀ file, trapped file →
    state.contexts.modules.get? (workspace.key .module platform.arch file) = none

theorem unmade_resolving {α : Type} {step : Resolve α} {post : α → Prop}
    (keeps : Keeps (Filled workspace.store) (Build.resolving step) post) :
    Keeps (workspace.Unmade platform trapped) (Build.resolving step) post :=
  fun state unmade => ⟨⟨(keeps state unmade.1).1, unmade.2⟩, (keeps state unmade.1).2⟩

theorem Unmade.keep {state : BuildState} (unmade : workspace.Unmade platform trapped state)
    {file : SourcePath} (free : ¬ trapped file) (context : ModuleContext) :
    workspace.Unmade platform trapped (BuildState.moduleShelf.replace (Numbered.advance state)
      (state.contexts.modules.insert (workspace.key .module platform.arch file)
        { serial := Numbered.nextSerial state, value := context })) := by
  refine ⟨unmade.1.afterNumber, fun other caught => ?_⟩
  rw [BuildState.moduleShelf, Table.get?_insert, if_neg]
  · exact unmade.2 other caught
  · intro same
    obtain rfl := congrArg ContextKey.file same
    exact free caught

/-- Files of which each is only ever linked with another one of them, or itself, never get contexts,
however deep that may go. -/
theorem not_made_of_trapped (archSame : platform.data.arch = platform.arch)
    (closed : ∀ file libraries, trapped file → platform.data.LinkedWith workspace.store file libraries →
      ∃ library ∈ libraries, trapped library.value.file) (depth : Nat) (file : SourcePath) :
    Keeps (workspace.Unmade platform trapped) (workspace.moduleContextWithin platform depth file)
      fun _ => ¬ trapped file := by
  induction depth generalizing file with
  | zero => exact .throw _
  | succ depth ih =>
    have looks : Keeps (workspace.Unmade platform trapped) (workspace.module file platform.arch)
        fun _ => True := unmade_resolving (fills_module file)
    have links : ∀ module, Keeps (workspace.Unmade platform trapped)
        (workspace.linked platform.data module) fun libraries => ∀ library ∈ libraries, True :=
      fun module => unmade_resolving (fills_linked module trivial)
    have contexts : ∀ libraries : List (Shared Module), ∀ library ∈ libraries,
        Keeps (workspace.Unmade platform trapped)
          (linkContext (workspace.moduleContextWithin platform depth) library) _ :=
      fun _ library _ => keeps_linkContext (ih library.value.file)
    have packages : Keeps (workspace.Unmade platform trapped) (workspace.platformPackages platform)
        fun _ => True :=
      keeps_platformPackages_of (fun file => unmade_resolving (fills_module file))
        (fun module _ => links module) fun _ unmade _ => ⟨unmade.1.afterNumber, unmade.2⟩
    let free (_ : ModuleContext) : Prop := ¬ trapped file
    change Keeps _ _ fun context : Shared ModuleContext => free context.value
    refine .requestNew ?_ (.of_ends ?_ ?_) ?_
    · intro state unmade context found caught
      cases (unmade.2 file caught).symm.trans found
    · refine looks.bind fun module _ => (links module).bind fun libraries _ => ?_
      refine (Keeps.mapM (contexts libraries)).bind fun linked _ => packages.bind fun packages _ => ?_
      exact Keeps.get.bind fun state _ => (Keeps.ofChecked _).mono fun _ _ => trivial
    -- Where all libraries had got their contexts, one of the trapped files would have one.
    · intro state unmade context last made caught
      revert context last
      refine Ends.bind (fun _ _ => id) fun module between looked => ?_
      have unmadeBetween := (looks.ends unmade _ between looked).1
      refine Ends.bind (fun _ _ => id) fun libraries after ran => ?_
      have unmadeAfter := ((links module).ends unmadeBetween libraries after ran).1
      obtain ⟨library, member, next⟩ := closed file libraries caught
        (linkedWith_of_run archSame unmade.1 looked ran)
      refine ((Keeps.mapM (contexts libraries)).ends unmadeAfter).bind fun made _ ⟨_, free⟩ => ?_
      obtain ⟨_, -, -, _, never, -⟩ := exists_of_mem_forall₂ free.flip member
      exact absurd next never
    · intro state unmade absent context free
      rw [BuildStep.keep_of_absent absent]
      exact unmade.keep free context

end Trapped

theorem arch_of_make {config : BuildConfig} {shared : Shared Platform} {platform : PlatformContext}
    (made : PlatformContext.make config shared = .ok platform) : platform.data.arch = platform.arch := by
  obtain ⟨same, archSame⟩ := platform_of_make made
  rw [archSame, PlatformContext.data, same]

/-- Building a context comes to an end, and asks for none that is being made already, unless a module is
linked with itself, or leads back to itself in this way. -/
theorem moduleContext_never_detours {workspace : Workspace} {shared : Shared Platform}
    {platform : PlatformContext} (made : PlatformContext.make workspace.config shared = .ok platform)
    (references : ∀ arch file, ¬ TransGen (Module.Refers workspace.store arch) file file)
    (embeddings : ∀ file, ¬ TransGen (platform.data.Embeds workspace.store) file file)
    {state : BuildState} (filled : FilledFrom workspace.store state.catalog) (detours : Detours)
    (file : SourcePath) :
    (workspace.moduleContext platform file).run.run state =
      (workspace.moduleContextOr platform detours (workspace.store.fileCount + 1) [] file).run.run state := by
  have archSame := arch_of_make made
  have acyclic := Platform.not_needs_itself embeddings
  exact sameFrom_moduleContextOr references detours archSame acyclic (.start _ file) state filled

def appFile : SourcePath := .ofText "App.inf"

def libraryFile : SourcePath := .ofText "A.inf"

def pairStore : RecordStore :=
  let row (values : List String) : Section × Record := (.defines, { values })
  let app := [row ["INF_VERSION", "0x00010005"], row ["BASE_NAME", "App"],
    row ["MODULE_TYPE", "UEFI_APPLICATION"]]
  let library := [row ["INF_VERSION", "0x00010005"], row ["BASE_NAME", "A"], row ["MODULE_TYPE", "BASE"],
    row ["LIBRARY_CLASS", "A"]]
  { files := .ofList [(appFile, app), (libraryFile, library)] }

def forcingPlatform (forced : SourcePath) : Shared Platform where
  serial := 0
  value := {
    file := .ofText "P.dsc"
    arch := "X64"
    skuName := "DEFAULT"
    skuIds := ∅
    components := .ofList [(appFile, { file := appFile, id := 1 })]
    bindings := {
      instances := ({} : WildcardTable SourcePath).insert ["X64", "COMMON", "NULL"] forced
      classes := ["NULL"]
      files := [forced] } }

def pairWorkspace : Workspace where
  store := pairStore
  config := {
    workspace := ⟨"ws"⟩
    platform := .ofText "P.dsc"
    target := "DEBUG"
    toolchain := "GCC5"
    arches := ["X64"]
    tools := ⟨.ofList [("*_*_*_MAKE_PATH", "make")]⟩ }

section Pair

variable {module : Module} {file other : SourcePath}

theorem mem_pairStore (known : file ∈ pairStore.files.keys) :
    file = appFile ∨ file = libraryFile := by
  have keys : pairStore.files.keys = [appFile, libraryFile] := by decide +kernel
  simpa [keys] using known

theorem not_refers_pairStore (arch : String) : ¬ Module.Refers pairStore arch file other := by
  rintro ⟨record, listed, -⟩
  have none : ∀ row ∈ pairStore.files.values.flatten, row.1 ≠ .depex := by decide +kernel
  exact none _ (RecordStore.mem_values_of_query listed) rfl

theorem app_of_read (read : module.ReadFrom pairStore appFile "X64") :
    module.isLibrary = false ∧ module.isLegacy = false ∧ module.type = .uefiApplication ∧
      module.libraryClasses = ∅ := by
  obtain ⟨plain, ok, header, type⟩ := read.header
  have shown : (Module.headed pairStore appFile "X64").toOption.map
      (fun plain => (plain.isLibrary, plain.isLegacy, plain.type)) =
      some (false, false, .uefiApplication) := by decide +kernel
  have unused : pairStore.query appFile .libraryClasses (some "X64") none = [] := by
    decide +kernel
  rw [ok] at shown
  obtain ⟨isLibrary, rest⟩ := Prod.mk.inj (Option.some.inj shown)
  obtain ⟨isLegacy, named⟩ := Prod.mk.inj rest
  refine ⟨?_, ?_, type.trans named, ?_⟩
  · rwa [Module.isLibrary, header]
  · rwa [header]
  · rw [read.libraryClasses_eq, unused]
    rfl

theorem library_of_read (read : module.ReadFrom pairStore libraryFile "X64") :
    module.isLibrary = true := by
  obtain ⟨plain, ok, header, -⟩ := read.header
  have shown : (Module.headed pairStore libraryFile "X64").toOption.map Module.isLibrary =
      some true := by decide +kernel
  rw [ok] at shown
  rw [Module.isLibrary, header]
  exact Option.some.inj shown

def pairApp : Module where
  file := appFile
  arch := "X64"
  type := .uefiApplication
  buildType := "UEFI_APPLICATION"

theorem consumedClasses_of_read (read : module.ReadFrom pairStore appFile "X64")
    (platform : Platform) : platform.consumedClasses module = platform.consumedClasses pairApp := by
  obtain ⟨-, -, type, classes⟩ := app_of_read read
  unfold Platform.consumedClasses
  rw [read.file_eq, type, classes]
  rfl

theorem file_of_null {forced : SourcePath} (read : module.ReadFrom pairStore appFile "X64")
    {catalog : Catalog} {bound : Table String (Shared Module)} {library : Shared Module}
    (filled : FilledFrom pairStore catalog)
    (isInstance : (forcingPlatform forced).value.IsInstance module catalog bound "NULL" library) :
    library.value.file = forced := by
  have choice : (((forcingPlatform forced).value.components.get? appFile).bind
      (·.libraryClasses.get? "NULL")).or ((forcingPlatform forced).value.libraryInstance? "NULL"
        .uefiApplication) = some forced := rfl
  obtain ⟨suggested, chosen, -, chose, found⟩ := isInstance.chosen
  rw [read.file_eq, (app_of_read read).2.2.1, ← Option.or_assoc, choice, Option.some_or] at chose
  rw [(filled.read _ _ found).file_eq, Option.some.inj chose]

theorem app_of_no_library (read : module.ReadFrom pairStore file "X64")
    (consumes : module.isLibrary = false) : file = appFile := by
  refine (mem_pairStore read.mem_files).resolve_right ?_
  rintro rfl
  rw [library_of_read read] at consumes
  cases consumes

theorem not_embeds_library : ¬ (forcingPlatform libraryFile).value.Embeds pairStore file other := by
  intro embeds
  obtain ⟨module, read, consumes, unchecked⟩ := embeds.unchecked
  obtain rfl := app_of_no_library read consumes
  obtain ⟨-, current, type, -⟩ := app_of_read read
  obtain ⟨catalog, bound, libraries, filled, links, libraryClass, library, forced, found, -, embedded⟩ :=
    unchecked.resolve_left (by simp [current])
  have isInstance := links.instances libraryClass library found
  obtain ⟨suggested, chosen, consumed, -⟩ := isInstance.chosen
  have null : libraryClass = "NULL" := by
    have only : ∀ libraryClass ∈ LinkSearch.nameable pairStore (forcingPlatform libraryFile).value pairApp,
        isForcedClass libraryClass = true → libraryClass = "NULL" := by decide +kernel
    refine only libraryClass ?_ forced
    rw [LinkSearch.nameable, ← consumedClasses_of_read read]
    exact LinkSearch.Consumed.mem_nameable
      (fun _ _ bound => ((links.instances _ _ bound).readFrom filled).1) consumed
  subst null
  have app := app_of_no_library (isInstance.readFrom filled).1 embedded
  rw [file_of_null read filled isInstance] at app
  revert app
  decide +kernel

theorem not_refers_itself (arch : String) (file : SourcePath) :
    ¬ TransGen (Module.Refers pairStore arch) file file := by
  intro chain
  obtain ⟨_, refers, -⟩ := TransGen.head'_iff.1 chain
  exact not_refers_pairStore arch refers

theorem moduleContext_never_detours_library :
    ∃ platform, PlatformContext.make pairWorkspace.config (forcingPlatform libraryFile) = .ok platform ∧
      ∃ context after,
        (pairWorkspace.moduleContext platform appFile).run.run {} = (.ok context, after) ∧
        context.value.libraries.map (·.library.value.file.text) = ["A.inf"] ∧
        ∀ detours : Detours, (pairWorkspace.moduleContextOr platform detours
          (pairStore.fileCount + 1) [] appFile).run.run {} = (.ok context, after) := by
  have shown : (PlatformContext.make pairWorkspace.config (forcingPlatform libraryFile)).toOption.map
      (fun platform => ((pairWorkspace.moduleContext platform appFile).run.run {}).1.toOption.map
        fun context => context.value.libraries.map (·.library.value.file.text)) = some (some ["A.inf"]) := by
    decide +kernel
  rcases made : PlatformContext.make pairWorkspace.config (forcingPlatform libraryFile) with _ | platform
  · rw [made] at shown
    cases shown
  have data : platform.data = (forcingPlatform libraryFile).value := by
    rw [PlatformContext.data, (platform_of_make made).1]
  have unembedded : ∀ file, ¬ TransGen (platform.data.Embeds pairStore) file file := by
    intro file chain
    obtain ⟨_, embeds, -⟩ := TransGen.head'_iff.1 chain
    rw [data] at embeds
    exact not_embeds_library embeds
  have never (detours : Detours) : (pairWorkspace.moduleContext platform appFile).run.run {} =
      (pairWorkspace.moduleContextOr platform detours (pairStore.fileCount + 1) [] appFile).run.run {} :=
    moduleContext_never_detours made not_refers_itself unembedded FilledFrom.empty detours appFile
  rw [made] at shown
  rcases ran : (pairWorkspace.moduleContext platform appFile).run.run {} with ⟨_ | context, after⟩
  · rw [Except.toOption, Option.map_some, ran] at shown
    cases shown
  · rw [Except.toOption, Option.map_some, ran] at shown
    refine ⟨platform, rfl, context, after, ran, Option.some.inj (Option.some.inj shown), fun detours => ?_⟩
    rw [← ran]
    exact (never detours).symm

theorem linkedWith_selfForced {libraries : List (Shared Module)}
    (linked : (forcingPlatform appFile).value.LinkedWith pairStore appFile libraries) :
    ∃ library ∈ libraries, library.value.file = appFile := by
  obtain ⟨module, catalog, read, hasLinked⟩ := linked.hasLinked
  obtain ⟨consumes, current, -⟩ := app_of_read read
  obtain ⟨bound, links⟩ := hasLinked.links consumes current
  have use : ((forcingPlatform appFile).value.consumedClasses module).get? "NULL" = some (some appFile) := by
    rw [consumedClasses_of_read read]
    rfl
  obtain ⟨library, found⟩ := Option.isSome_iff_exists.1
    (Table.mem_keys.1 ((links.classes "NULL").2 ⟨_, .own use⟩))
  refine ⟨library, (links.exact library).2 ⟨"NULL", found⟩, ?_⟩
  exact file_of_null read hasLinked.filled (links.instances "NULL" library found)

/-- The context of an application that is forced on every module is asked for while it is being made,
and no depth is enough for it. -/
theorem moduleContext_selfForced :
    (∀ arch file, ¬ TransGen (Module.Refers pairStore arch) file file) ∧
      ∃ platform, PlatformContext.make pairWorkspace.config (forcingPlatform appFile) = .ok platform ∧
        (∀ depth context after, (pairWorkspace.moduleContextWithin platform depth appFile).run.run {} ≠
          (.ok context, after)) ∧
        ∃ detours : Detours, (pairWorkspace.moduleContext platform appFile).run.run {} ≠
          (pairWorkspace.moduleContextOr platform detours (pairStore.fileCount + 1) []
            appFile).run.run {} := by
  refine ⟨not_refers_itself, ?_⟩
  -- The detour gives the context of the library where that of the application is asked for again.
  let detours (platform : PlatformContext) : Detours := {
    reference := fun file => throw (.of (.referenceCycle file))
    classes := fun _ => throw (.of .pathEmpty)
    names := fun _ => throw (.of .pathEmpty)
    context := fun _ => pairWorkspace.moduleContext platform libraryFile }
  have shown : (PlatformContext.make pairWorkspace.config (forcingPlatform appFile)).toOption.map
      (fun platform => (((pairWorkspace.moduleContext platform appFile).run.run {}).1.toOption.isSome,
        ((pairWorkspace.moduleContextOr platform (detours platform) (pairStore.fileCount + 1) []
          appFile).run.run {}).1.toOption.isSome)) = some (false, true) := by
    decide +kernel
  rcases made : PlatformContext.make pairWorkspace.config (forcingPlatform appFile) with _ | platform
  · rw [made] at shown
    cases shown
  rw [made] at shown
  obtain ⟨plain, other⟩ := Prod.mk.inj (Option.some.inj shown)
  have data : platform.data = (forcingPlatform appFile).value := by
    rw [PlatformContext.data, (platform_of_make made).1]
  refine ⟨platform, rfl, fun depth context after ran => ?_, detours platform, fun same => ?_⟩
  · have closed : ∀ file libraries, file = appFile →
        platform.data.LinkedWith pairStore file libraries →
          ∃ library ∈ libraries, library.value.file = appFile := by
      rintro _ libraries rfl linked
      rw [data] at linked
      exact linkedWith_selfForced linked
    have unmade : pairWorkspace.Unmade platform (· = appFile) {} := ⟨.empty, fun _ _ => by simp⟩
    have never := (not_made_of_trapped (arch_of_make made) closed depth appFile).ends unmade context after ran
    exact never.2 rfl
  · rw [same, other] at plain
    cases plain

end Pair

end Workspace

end UefiBuild
