import UefiBuild.Proofs.Catalog.Acyclic
import UefiBuild.Proofs.Shelf

namespace UefiBuild

open BuildStep (Ends Keeps Reaches)
open Relation (TransGen)

inductive Descriptor
  | package (package : Package)
  | module (module : Module)

def Descriptor.content : Descriptor → Descriptor
  | package found => .package found
  | module found => .module found.content

inductive Request
  | package (file : SourcePath) (arch : String)
  | module (file : SourcePath) (arch : String)
  deriving DecidableEq

namespace Request

def ask (store : RecordStore) : Request → Resolve (Shared Descriptor)
  | package file arch => Shared.map .package <$> Catalog.package store file arch
  | module file arch => Shared.map .module <$> Catalog.module store file arch

def answer (store : RecordStore) (request : Request) (catalog : Catalog) : Checked Descriptor :=
  ((request.ask store).run.run catalog).1.map fun object => object.value.content

def after (store : RecordStore) (request : Request) (catalog : Catalog) : Catalog :=
  ((request.ask store).run.run catalog).2

end Request

namespace Catalog

def find? (catalog : Catalog) : Request → Option (Shared Descriptor)
  | .package file arch => (catalog.packages.get? (file, arch)).map (Shared.map .package)
  | .module file arch => (catalog.modules.get? (file, arch)).map (Shared.map .module)

variable {store : RecordStore} {earlier catalog : Catalog}

theorem packageShelf_shownBy :
    packageShelf.ShownBy find? (fun key => .package key.1 key.2) .package where
  found _ _ := rfl
  objects_replace _ _ := rfl
  replaced catalog key object := by
    refine ⟨?_, rfl⟩
    rintro (⟨other, otherArch⟩ | ⟨other, otherArch⟩)
    · simp only [find?, packageShelf, Table.get?_insert, Request.package.injEq, Prod.ext_iff]
      split <;> rfl
    · rfl

theorem moduleShelf_shownBy : moduleShelf.ShownBy find? (fun key => .module key.1 key.2) .module where
  found _ _ := rfl
  objects_replace _ _ := rfl
  replaced catalog key object := by
    refine ⟨?_, rfl⟩
    rintro (⟨other, otherArch⟩ | ⟨other, otherArch⟩)
    · rfl
    · simp only [find?, moduleShelf, Table.get?_insert, Request.module.injEq, Prod.ext_iff]
      split <;> rfl

theorem grown_empty : Grown find? {} {} := .of_empty fun request => by cases request <;> rfl

theorem grown_warn (warning : Warning) : Keeps (Grown find? earlier) (warn warning) fun _ => True :=
  .modify fun _ grown => grown.apart (funext fun request => by cases request <;> rfl) le_rfl

theorem grown_package (file : SourcePath) (arch : String) :
    Keeps (Grown find? earlier) (package store file arch) fun _ => True :=
  package_eq store file arch ▸ packageShelf_shownBy.grown_request
    ((Keeps.ofChecked _).mono fun _ _ => trivial)

theorem grown_module (file : SourcePath) (arch : String) :
    Keeps (Grown find? earlier) (module store file arch) fun _ => True := by
  refine keeps_moduleWithin_of (fun _ _ => True) grown_package grown_warn (fun _ _ _ _ _ => trivial)
    (fun _ _ _ _ => trivial) ?_ _ file arch
  intro catalog grown key absent module _
  have kept := moduleShelf_shownBy.grown_keep grown key module
  rwa [BuildStep.keep_of_absent absent] at kept

end Catalog

namespace Request

variable {store : RecordStore} {earlier catalog : Catalog}

theorem faithful_ask (request : Request) :
    Keeps (Catalog.Faithful store) (request.ask store) fun _ => True := by
  cases request with
  | package file arch =>
    exact Keeps.map ((Catalog.faithful_package file arch).mono fun _ _ => trivial)
  | module file arch => exact Keeps.map (Catalog.module_agrees file arch).keeps

theorem grown_ask (request : Request) :
    Keeps (Grown Catalog.find? earlier) (request.ask store) fun _ => True := by
  cases request with
  | package file arch => exact Keeps.map (Catalog.grown_package file arch)
  | module file arch => exact Keeps.map (Catalog.grown_module file arch)

theorem holds_afterAll {inv : Catalog → Prop}
    (keeps : ∀ request : Request, Keeps inv (request.ask store) fun _ => True) (requests : List Request)
    (before : inv catalog) : inv (BuildStep.afterAll (requests.map (ask store)) catalog) :=
  BuildStep.afterAll_holds (List.forall_mem_map.2 fun request _ => keeps request) before

theorem find?_after {request : Request} {object : Shared Descriptor}
    (ok : ((request.ask store).run.run catalog).1 = .ok object) :
    (request.after store catalog).find? request = some object := by
  cases request with
  | package file arch =>
    rw [ask, BuildStep.run_map] at ok
    obtain ⟨found, ran, rfl⟩ := Checked.map_eq_ok.1 ok
    rw [after, ask, BuildStep.run_map]
    exact Catalog.packageShelf_shownBy.find?_request ran
  | module file arch =>
    rw [ask, BuildStep.run_map] at ok
    obtain ⟨found, ran, rfl⟩ := Checked.map_eq_ok.1 ok
    rw [after, ask, BuildStep.run_map]
    exact Catalog.moduleShelf_shownBy.find?_request ran

theorem answer_package (file : SourcePath) (arch : String) (catalog : Catalog) :
    (package file arch).answer store catalog =
      (((Catalog.package store file arch).run.run catalog).1.map Shared.value).map .package := by
  rw [answer, ask, BuildStep.run_map, Checked.map_map, Checked.map_map]
  rfl

theorem answer_module (file : SourcePath) (arch : String) (catalog : Catalog) :
    (module file arch).answer store catalog =
      (((Catalog.module store file arch).run.run catalog).1.map (Module.content ∘ Shared.value)).map
        .module := by
  rw [answer, ask, BuildStep.run_map, Checked.map_map, Checked.map_map]
  rfl

/-- What is asked for does not depend on what was asked for before. -/
theorem answer_eq (acyclic : ∀ arch file, ¬ TransGen (Module.Refers store arch) file file)
    (request : Request) {other : Catalog} (faithful : catalog.Faithful store)
    (otherFaithful : other.Faithful store) :
    request.answer store catalog = request.answer store other := by
  cases request with
  | package file arch =>
    rw [answer_package, answer_package, Catalog.run_package faithful, Catalog.run_package otherFaithful]
  | module file arch =>
    have agrees := Catalog.module_agrees_of_descent (acyclic arch) (.start _ file)
    rw [answer_module, answer_module, agrees.results catalog faithful other otherFaithful]
    exact fun ⟨_, _, gone⟩ => gone

section Resolving

variable {file : SourcePath} {arch : String}

theorem grown_after_module (acyclic : ∀ file, ¬ TransGen (Module.Refers store arch) file file)
    (absent : catalog.modules.get? (file, arch) = none)
    (present : Catalog.findFile store file ".inf" = .ok ())
    (grown : Grown Catalog.find? earlier
      ((Module.resolve store (Catalog.module store) file arch).run.run catalog).2) :
    Grown Catalog.find? earlier ((module file arch).after store catalog) := by
  rw [after, ask, BuildStep.run_map, Catalog.module_eq acyclic, BuildStep.run_request_of_absent absent,
    Catalog.makeModule, present]
  exact BuildStep.holds_bind grown fun module =>
    .modifyGet fun _ grown => ⟨Catalog.moduleShelf_shownBy.grown_keep grown _ module, trivial⟩

theorem grown_resolve_of_packages {begun : Catalog} {module : Module}
    (headed : (Module.heading store file arch).run.run catalog = (.ok module, begun))
    (grown : Grown Catalog.find? earlier ((Module.resolvePackages store file arch).run.run begun).2) :
    Grown Catalog.find? earlier
      ((Module.resolve store (Catalog.module store) file arch).run.run catalog).2 := by
  rw [Module.resolve_eq, Module.prepare, bind_assoc, BuildStep.run_bind_ok headed, bind_assoc]
  refine BuildStep.holds_bind grown fun packages => ?_
  rw [bind_assoc]
  refine (Keeps.ofChecked _).bind fun settled _ => ?_
  exact (Module.keeps_resolveDepex Catalog.grown_module _ _).bind fun _ _ => .pure trivial

theorem grown_resolve_of_depex {begun : Catalog} {module : Module}
    (prepared : (Module.prepare store file arch).run.run catalog = (.ok module, begun))
    (grown : Grown Catalog.find? earlier ((Module.resolveDepex (Catalog.module store) module
      (store.query file .depex (some arch) none)).run.run begun).2) :
    Grown Catalog.find? earlier
      ((Module.resolve store (Catalog.module store) file arch).run.run catalog).2 := by
  rw [Module.resolve_eq, BuildStep.run_bind_ok prepared]
  exact BuildStep.holds_bind grown fun _ => .pure trivial

theorem grown_packageRow {row : Record} (valid : (SourcePath.ofText (row.value 0)).validate ".dec" = .ok ())
    (grown : Grown Catalog.find? earlier ((package (.ofText (row.value 0)) arch).after store catalog)) :
    Grown Catalog.find? earlier ((Module.packageRow store file arch row).run.run catalog).2 := by
  rw [Module.packageRow, valid]
  rwa [after, ask, BuildStep.run_map] at grown

theorem grown_depexToken {module : Module} {line : Nat} {token : String} (symbol : token ∉ Module.depexWords)
    (named : Text.endsWith ".inf" token)
    (grown : Grown Catalog.find? earlier ((Request.module (.ofText token) module.arch).after store catalog)) :
    Grown Catalog.find? earlier
      ((Module.depexToken (Catalog.module store) module line token).run.run catalog).2 := by
  rw [after, ask, BuildStep.run_map] at grown
  rw [Module.depexToken, if_neg symbol, if_pos named, Module.depexModule]
  -- The failure of a lookup is told in another way here, which leaves the catalog alone.
  refine BuildStep.holds_bind (BuildStep.holds_tryCatch ?_ fun failure => ?_) fun _ => .pure trivial
  · exact BuildStep.holds_bind grown fun _ => .pure trivial
  · split <;> exact .throw _

theorem grown_resolveDepex {module : Module} {rows : List Record} {row : Record} {between : Catalog}
    (used : ¬ (module.sources.isEmpty ∧ !module.binaries.isEmpty))
    (reaches : Reaches (Module.depexRow (Catalog.module store) module) rows catalog row between)
    (grown : Grown Catalog.find? earlier
      ((Module.depexRow (Catalog.module store) module row).run.run between).2) :
    Grown Catalog.find? earlier
      ((Module.resolveDepex (Catalog.module store) module rows).run.run catalog).2 := by
  obtain ⟨done, rest, -, listed, -⟩ := id reaches
  unfold Module.resolveDepex
  split
  · rename_i unused
    exact absurd unused used
  · split
    · rename_i missing
      simp [listed] at missing
    · refine BuildStep.holds_bind (reaches.holds_last ?_ grown) fun _ => .pure trivial
      exact Module.keeps_depexRow Catalog.grown_module module

end Resolving

/-- A request for a module makes another one on the way, for a package that the module names or for a
module that its dependency expression names, with the catalog as the requests before have left it. By
`Catalog.module_eq` these are the lookups that the request itself makes. -/
inductive Opens (store : RecordStore) : Request → Catalog → Request → Catalog → Prop
  | package {file : SourcePath} {arch : String} {catalog begun between : Catalog} {module : Module}
      {row : Record} (absent : catalog.modules.get? (file, arch) = none)
      (present : Catalog.findFile store file ".inf" = .ok ())
      (headed : (Module.heading store file arch).run.run catalog = (.ok module, begun))
      (reaches : Reaches (Module.packageRow store file arch) (store.query file .packages (some arch) none)
        begun row between)
      (valid : (SourcePath.ofText (row.value 0)).validate ".dec" = .ok ()) :
      Opens store (.module file arch) catalog (.package (.ofText (row.value 0)) arch) between
  | module {file : SourcePath} {arch : String} {catalog begun rowBegun between : Catalog} {module : Module}
      {row : Record} {token : String} (absent : catalog.modules.get? (file, arch) = none)
      (present : Catalog.findFile store file ".inf" = .ok ())
      (prepared : (Module.prepare store file arch).run.run catalog = (.ok module, begun))
      (used : ¬ (module.sources.isEmpty ∧ !module.binaries.isEmpty))
      (reachesRow : Reaches (Module.depexRow (Catalog.module store) module)
        (store.query file .depex (some arch) none) begun row rowBegun)
      (reaches : Reaches (Module.depexToken (Catalog.module store) module row.line)
        (Text.words (row.value 0)) rowBegun token between)
      (symbol : token ∉ Module.depexWords) (named : Text.endsWith ".inf" token) :
      Opens store (.module file arch) catalog (.module (.ofText token) arch) between

namespace Opens

variable {request other : Request} {between : Catalog}

theorem holds {inv : Catalog → Prop} (opens : Opens store request catalog other between)
    (warned : ∀ warning, Keeps inv (Catalog.warn warning) fun _ => True)
    (packages : ∀ file arch, Keeps inv (Catalog.package store file arch) fun _ => True)
    (modules : ∀ file arch, Keeps inv (Catalog.module store file arch) fun _ => True)
    (before : inv catalog) : inv between := by
  cases opens with
  | package absent present headed reaches valid =>
    have start := ((Module.keeps_heading warned).ends before _ _ headed).1
    exact reaches.holds (Module.keeps_packageRow packages) start
  | module absent present prepared used reachesRow reaches symbol named =>
    refine reaches.holds (fun token => ?_) (reachesRow.holds (Module.keeps_depexRow modules _) ?_)
    · exact (Module.keeps_depexToken modules _ _ token).mono fun _ _ => trivial
    · exact ((Module.keeps_prepare warned packages).ends before _ _ prepared).1

theorem grown_after (acyclic : ∀ arch file, ¬ TransGen (Module.Refers store arch) file file)
    (opens : Opens store request catalog other between)
    (grown : Grown Catalog.find? earlier (other.after store between)) :
    Grown Catalog.find? earlier (request.after store catalog) := by
  cases opens with
  | @package file arch _ _ _ _ row absent present headed reaches valid =>
    have here : Grown Catalog.find? earlier ((Module.packageRow store file arch row).run.run between).2 :=
      grown_packageRow valid grown
    have last : Grown Catalog.find? earlier ((Module.resolvePackages store file arch).run.run _).2 :=
      reaches.holds_last (Module.keeps_packageRow Catalog.grown_package) here
    exact grown_after_module (acyclic arch) absent present (grown_resolve_of_packages headed last)
  | @module file arch _ _ _ _ module row token absent present prepared used reachesRow reaches symbol named =>
    have tokens : ∀ token, Keeps (Grown Catalog.find? earlier)
        (Module.depexToken (Catalog.module store) module row.line token) fun _ => True := fun token =>
      (Module.keeps_depexToken Catalog.grown_module module row.line token).mono fun _ _ => trivial
    rw [← Module.ends_prepare store file arch catalog _ _ prepared] at grown
    have here := reaches.holds_last tokens (grown_depexToken symbol named grown)
    have last := grown_resolveDepex used reachesRow (BuildStep.holds_bind here fun _ => .pure trivial)
    exact grown_after_module (acyclic arch) absent present (grown_resolve_of_depex prepared last)

end Opens

def afterAll (store : RecordStore) (requests : List Request) : Catalog :=
  BuildStep.afterAll (requests.map (ask store)) {}

/-- A request is made in a session: it is one of those listed, from an empty catalog on, or it is made on
the way of another one. -/
inductive Asked (store : RecordStore) (requests : List Request) : Request → Catalog → Prop
  | listed {before rest : List Request} {request : Request} (cut : requests = before ++ request :: rest) :
      Asked store requests request (afterAll store before)
  | opened {request other : Request} {catalog between : Catalog}
      (asked : Asked store requests request catalog) (opens : Opens store request catalog other between) :
      Asked store requests other between

variable {requests : List Request} {request : Request}

theorem Asked.faithful (asked : Asked store requests request catalog) : catalog.Faithful store := by
  induction asked with
  | listed _ => exact holds_afterAll faithful_ask _ Catalog.faithful_empty
  | opened _ opens ih =>
    exact opens.holds Catalog.faithful_warn
      (fun file arch => (Catalog.faithful_package file arch).mono fun _ _ => trivial)
      (fun file arch => (Catalog.module_agrees file arch).keeps) ih

theorem Asked.grown (asked : Asked store requests request catalog) : Grown Catalog.find? {} catalog := by
  induction asked with
  | listed _ => exact holds_afterAll grown_ask _ Catalog.grown_empty
  | opened _ opens ih =>
    exact opens.holds Catalog.grown_warn Catalog.grown_package Catalog.grown_module ih

theorem Asked.grown_after (asked : Asked store requests request catalog) :
    Grown Catalog.find? (request.after store catalog) (request.after store catalog) :=
  (grown_ask request catalog asked.grown).1.refl

theorem Asked.grown_last (acyclic : ∀ arch file, ¬ TransGen (Module.Refers store arch) file file)
    (asked : Asked store requests request catalog) :
    Grown Catalog.find? (request.after store catalog) (afterAll store requests) := by
  induction asked with
  | @listed before rest request cut =>
    have last : afterAll store requests =
        BuildStep.afterAll (rest.map (ask store)) (request.after store (afterAll store before)) := by
      rw [cut, afterAll, List.map_append, List.map_cons, BuildStep.afterAll_append_cons]
      rfl
    exact last ▸ holds_afterAll grown_ask rest (Asked.listed cut).grown_after
  | @opened request other catalog between asked opens ih =>
    exact (opens.grown_after acyclic (asked.opened opens).grown_after).trans ih

/-- Whatever is asked for, in whatever order and on the way of whatever else, each request comes to what
it would come to from an empty catalog, and equal requests alone are answered with the same object. -/
theorem answers_transparent (acyclic : ∀ arch file, ¬ TransGen (Module.Refers store arch) file file)
    (requests : List Request) :
    (∀ request catalog, Asked store requests request catalog →
      request.answer store catalog = request.answer store {}) ∧
    ∀ request other catalog between object another, Asked store requests request catalog →
      Asked store requests other between → ((request.ask store).run.run catalog).1 = .ok object →
      ((other.ask store).run.run between).1 = .ok another →
        (object.serial = another.serial ↔ request = other) ∧ (request = other → object = another) := by
  refine ⟨fun request catalog asked => answer_eq acyclic request asked.faithful Catalog.faithful_empty, ?_⟩
  intro request other catalog between object another asked otherAsked ok otherOk
  have last := (asked.grown_last acyclic).kept request object (find?_after ok)
  have otherLast := (otherAsked.grown_last acyclic).kept other another (find?_after otherOk)
  have same : request = other → object = another := by
    rintro rfl
    exact Option.some.inj (last.symm.trans otherLast)
  refine ⟨⟨fun serials => ?_, fun alike => congrArg Shared.serial (same alike)⟩, same⟩
  exact (asked.grown_last acyclic).distinct request object other another last otherLast serials

section Reference

def driverFile : SourcePath := .ofText "Driver.inf"

def serviceFile : SourcePath := .ofText "Service.inf"

def packageFile : SourcePath := .ofText "Pkg.dec"

def waitingStore : RecordStore :=
  let row (place : Section) (values : List String) : Section × Record := (place, { values })
  let package := [row .defines ["PACKAGE_NAME", "Pkg"], row .defines ["PACKAGE_GUID", "A"]]
  let module (name type : String) := [row .defines ["INF_VERSION", "0x00010005"],
    row .defines ["BASE_NAME", name], row .defines ["FILE_GUID", name], row .defines ["MODULE_TYPE", type],
    row .packages ["Pkg.dec"]]
  { files := .ofList [(packageFile, package), (serviceFile, module "Service" "UEFI_APPLICATION"),
      (driverFile, module "Driver" "DXE_DRIVER" ++ [row .depex ["Service.inf"]])] }

theorem not_refers_itself_waiting (arch : String) (file : SourcePath) :
    ¬ TransGen (Module.Refers waitingStore arch) file file := by
  have only : ∀ entry ∈ waitingStore.files.entries, ∀ row ∈ entry.2, row.1 = .depex →
      entry.1 = driverFile ∧ ∀ token ∈ Text.words (row.2.value 0), SourcePath.ofText token = serviceFile := by
    decide +kernel
  have leads : ∀ file other, Module.Refers waitingStore arch file other →
      file = driverFile ∧ other = serviceFile := by
    rintro file other ⟨record, listed, token, member, -, -, rfl⟩
    obtain ⟨rows, found, stands⟩ := RecordStore.exists_rows_of_query listed
    obtain ⟨driver, service⟩ := only (file, rows) (Table.mem_entries.2 found) _ stands rfl
    exact ⟨driver, service token member⟩
  intro chain
  obtain ⟨_, first, -⟩ := TransGen.head'_iff.1 chain
  obtain ⟨_, -, last⟩ := TransGen.tail'_iff.1 chain
  have different : driverFile ≠ serviceFile := by decide +kernel
  exact different ((leads _ _ first).1.symm.trans (leads _ _ last).2)

theorem answers_transparent_waiting :
    (∀ arch file, ¬ TransGen (Module.Refers waitingStore arch) file file) ∧
      ∃ between object another,
        Opens waitingStore (.module driverFile "X64") {} (.module serviceFile "X64") between ∧
        (((module serviceFile "X64").ask waitingStore).run.run between).1 = .ok object ∧
        (((module serviceFile "X64").ask waitingStore).run.run
          ((module driverFile "X64").after waitingStore {})).1 = .ok another ∧
        object = another ∧
        (module serviceFile "X64").answer waitingStore {} = .ok object.value.content := by
  refine ⟨not_refers_itself_waiting, ?_⟩
  have shown : ((Module.prepare waitingStore driverFile "X64").run.run {}).1.toOption.map
      (fun module => module.sources.isEmpty && !module.binaries.isEmpty) = some false := by decide +kernel
  obtain ⟨prepared, begun, ran, used⟩ := BuildStep.exists_of_toOption shown
  have rows : waitingStore.query driverFile .depex (some "X64") none = [{ values := ["Service.inf"] }] := by
    decide +kernel
  have words : Text.words "Service.inf" = ["Service.inf"] := by decide +kernel
  have present : Catalog.findFile waitingStore driverFile ".inf" = .ok () := by rfl
  have opens : Opens waitingStore (.module driverFile "X64") {} (.module serviceFile "X64") begun :=
    .module rfl present ran (by simpa using used) ⟨[], [], [], rows, rfl⟩
      ⟨[], [], [], words, rfl⟩ (by decide +kernel) (by decide +kernel)
  have asked : Asked waitingStore [.module driverFile "X64", .module serviceFile "X64"]
      (.module driverFile "X64") {} := @Asked.listed _ _ [] _ _ rfl
  have later : Asked waitingStore [.module driverFile "X64", .module serviceFile "X64"]
      (.module serviceFile "X64") ((module driverFile "X64").after waitingStore {}) :=
    @Asked.listed _ _ [.module driverFile "X64"] _ _ rfl
  obtain ⟨answers, objects⟩ := answers_transparent not_refers_itself_waiting
    [.module driverFile "X64", .module serviceFile "X64"]
  have fresh : ((module serviceFile "X64").answer waitingStore {}).toOption.isSome := by decide +kernel
  rcases ok : (module serviceFile "X64").answer waitingStore {} with failure | content
  · rw [ok] at fresh
    cases fresh
  · obtain ⟨object, found, same⟩ := Checked.map_eq_ok.1 ((answers _ _ (asked.opened opens)).trans ok)
    obtain ⟨another, foundLater, -⟩ := Checked.map_eq_ok.1 ((answers _ _ later).trans ok)
    have shared := objects _ _ _ _ _ _ (asked.opened opens) later found foundLater
    exact ⟨begun, object, another, opens, found, foundLater, shared.2 rfl, by rw [same]⟩

end Reference

end Request

end UefiBuild
