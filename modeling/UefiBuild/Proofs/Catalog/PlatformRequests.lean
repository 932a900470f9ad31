import UefiBuild.Proofs.Catalog.Platform
import UefiBuild.Proofs.Catalog.Reading

namespace UefiBuild

open BuildStep (Agrees Keeps request_cases)

namespace Platform

variable {lost : Failure → Prop} {inv : Catalog → Prop} {store : RecordStore} {file : SourcePath}
  {arch : String} {sku? : Option String} {lookup another : Lookup Module}

theorem resolve_agrees (lookups : ∀ file arch,
      Agrees lost inv (Module.content ∘ Shared.value) (lookup file arch) (another file arch)) :
    Agrees lost inv id (resolve store lookup file arch sku?) (resolve store another file arch sku?) := by
  unfold resolve
  refine Agrees.ofChecked_bind fun header _ => Agrees.ofChecked_bind fun skuIds _ => ?_
  refine Agrees.ofChecked_bind fun ⟨bindings, forced⟩ _ => ?_
  let records := store.query file .libraryInstances (some arch) none
  have legacy : Agrees lost inv id (records.foldlM (bindLegacy lookup file arch) bindings)
      (records.foldlM (bindLegacy another file arch) bindings) := by
    refine Agrees.foldlM _ fun bindings record _ => Agrees.ofChecked_bind fun library _ => ?_
    have named := (lookups library arch).map fun content => content.baseName
    refine named.bind fun found other same => .pure ?_
    exact congrArg (fun name => { bindings with
      files := addNew bindings.files library, legacy := bindings.legacy.insert name library }) same
  refine legacy.bind_id fun bindings => Agrees.ofChecked_bind fun list _ => ?_
  exact Agrees.ofChecked_bind fun pcds _ => Agrees.ofChecked_bind fun options _ => .pure rfl

theorem not_contains_readSkuIds {records : List Record} {ids : Table String String}
    (ok : readSkuIds file records = .ok ids) : ids.contains "" = false := by
  obtain ⟨rows, read, ok⟩ := Checked.bind_eq_ok.1 ok
  have named : ∀ row ∈ rows, row.1 ≠ "" := by
    intro row member
    obtain ⟨record, -, ok⟩ := Checked.exists_of_mem_mapM read member
    dsimp only at ok
    split at ok
    · cases ok
    · split at ok
      · cases ok
      · rename_i named
        obtain rfl := Checked.pure_eq_ok.1 ok
        exact named
  have absent : (Table.ofList rows).contains "" = false := by
    rw [Table.contains, Option.isSome_eq_false_iff, Option.isNone_iff_eq_none,
      Option.eq_none_iff_forall_ne_some]
    intro number found
    exact named ("", number) (Table.mem_ofList (Table.mem_entries.2 found)) rfl
  obtain rfl := Checked.pure_eq_ok.1 ok
  split
  · exact absent
  · rw [Table.contains_insert, absent]
    rfl

theorem resolve_emptySku :
    resolve store lookup file arch (some "") = resolve store lookup file arch none := by
  unfold resolve
  refine BuildStep.ofChecked_bind_congr fun header _ => BuildStep.ofChecked_bind_congr fun skuIds ids => ?_
  have same : chooseSku skuIds ([some "", header.skuChoice?].filterMap id) =
      chooseSku skuIds ([none, header.skuChoice?].filterMap id) := by
    simp [chooseSku, not_contains_readSkuIds ids]
  rw [same]

end Platform

structure PlatformRequest where
  file : SourcePath
  arch : String
  sku? : Option String := none
  deriving DecidableEq

namespace PlatformRequest

def key (request : PlatformRequest) : SourcePath × String :=
  Catalog.platformKey request.file request.arch request.sku?

def ask (store : RecordStore) (request : PlatformRequest) : Resolve (Shared Platform) :=
  Catalog.platform store request.file request.arch request.sku?

def fresh (store : RecordStore) (request : PlatformRequest) : Checked Platform :=
  ((Platform.resolve store (Catalog.module store) request.file request.arch request.sku?).run.run {}).1

variable {store : RecordStore} {requests : List PlatformRequest} {request other : PlatformRequest}

theorem arch_eq_of_key (sameKey : request.key = other.key) (bare : ':' ∉ request.arch.toList)
    (otherBare : ':' ∉ other.arch.toList) : request.arch = other.arch := by
  -- The architecture is what the text begins with, up to the first colon.
  have read : ∀ request : PlatformRequest, ':' ∉ request.arch.toList →
      request.key.2.toList.takeWhile (· ≠ ':') = request.arch.toList := by
    intro request bare
    have solid : ∀ c ∈ request.arch.toList, decide (c ≠ ':') = true := fun c member =>
      decide_eq_true fun colon => bare (colon ▸ member)
    rw [key, Catalog.platformKey, String.toList_append, String.toList_append, List.append_assoc,
      List.takeWhile_append_of_pos solid]
    exact List.append_nil _
  rw [← String.toList_inj, ← read request bare, ← read other otherBare, sameKey]

/-- Requests with one key and one architecture differ at most in how they ask for no stock keeping unit. -/
theorem fresh_eq_of_key (sameKey : request.key = other.key) (sameArch : request.arch = other.arch) :
    request.fresh store = other.fresh store := by
  obtain ⟨file, arch, sku?⟩ := request
  obtain ⟨otherFile, otherArch, otherSku?⟩ := other
  obtain rfl : arch = otherArch := sameArch
  obtain ⟨sameFile, texts⟩ := Prod.mk.inj sameKey
  obtain rfl : file = otherFile := sameFile
  have skus : sku?.getD "" = otherSku?.getD "" := by
    have chars := congrArg String.toList texts
    simpa [String.toList_inj] using chars
  have plain : ∀ sku? : Option String,
      fresh store ⟨file, arch, sku?⟩ = fresh store ⟨file, arch, some (sku?.getD "")⟩ := by
    rintro (_ | sku)
    · rw [fresh, fresh, Option.getD_none, Platform.resolve_emptySku]
    · rfl
  rw [plain, plain otherSku?, skus]

def Listed (store : RecordStore) (requests : List PlatformRequest)
    (platforms : Table (SourcePath × String) (Shared Platform)) : Prop :=
  ∀ key platform, platforms.get? key = some platform →
    ∃ first ∈ requests, first.key = key ∧ first.fresh store = .ok platform.value

def Settled (store : RecordStore) (requests : List PlatformRequest) (catalog : Catalog) : Prop :=
  catalog.Faithful store ∧ Listed store requests catalog.platforms

theorem settled_empty : Settled store requests {} :=
  ⟨Catalog.faithful_empty, fun _ _ found => by simp at found⟩

theorem keeps_platforms (kept : Table (SourcePath × String) (Shared Platform) → Prop) (file : SourcePath)
    (arch : String) :
    Keeps (fun catalog => kept catalog.platforms) (Catalog.module store file arch) fun _ => True :=
  Catalog.keeps_moduleWithin_of (fun _ _ => True)
    (fun dec arch => Catalog.keeps_package_of (fun _ before _ _ => before) dec arch)
    (fun _ => .modify fun _ before => before) (fun _ _ _ _ _ => trivial) (fun _ _ _ _ => trivial)
    (fun _ before _ _ _ _ => before) _ file arch

theorem settled_resolve (request : PlatformRequest) :
    Keeps (Settled store requests)
      (Platform.resolve store (Catalog.module store) request.file request.arch request.sku?)
      fun platform => request.fresh store = .ok platform := by
  have agrees : Agrees Failure.Endless (Catalog.Faithful store) id
      (Platform.resolve store (Catalog.module store) request.file request.arch request.sku?)
      (Platform.resolve store (Catalog.module store) request.file request.arch request.sku?) :=
    Platform.resolve_agrees Catalog.module_agrees
  have reads : Keeps (Catalog.Faithful store)
      (Platform.resolve store (Catalog.module store) request.file request.arch request.sku?)
      fun platform => request.fresh store = .ok platform := by
    refine fun catalog faithful => ⟨(agrees.keeps catalog faithful).1, fun platform ok => ?_⟩
    have same := (agrees.results catalog faithful {} Catalog.faithful_empty).eq_ok
      (Checked.map_eq_ok.2 ⟨platform, ok, rfl⟩)
    obtain ⟨_, ran, rfl⟩ := Checked.map_eq_ok.1 same
    exact ran
  exact (reads.and (Platform.keeps_resolve (keeps_platforms (Listed store requests)) store request.file
    request.arch request.sku?)).mono fun _ => And.left

theorem settled_ask (member : request ∈ requests) :
    Keeps (Settled store requests) (request.ask store) fun platform =>
      ∃ first ∈ requests, first.key = request.key ∧ first.fresh store = .ok platform.value := by
  let asked (platform : Platform) : Prop :=
    ∃ first ∈ requests, first.key = request.key ∧ first.fresh store = .ok platform
  change Keeps _ _ fun platform : Shared Platform => asked platform.value
  have made : Keeps (Settled store requests) (do
      .ofChecked (Catalog.findFile store request.file ".dsc")
      Platform.resolve store (Catalog.module store) request.file request.arch request.sku?) asked :=
    (Keeps.ofChecked _).bind fun _ _ => (settled_resolve request).mono fun platform ok =>
      ⟨request, member, rfl, ok⟩
  refine .request (fun _ settled object found => settled.2 _ object found) made ?_
  intro catalog settled platform named
  refine ⟨⟨settled.1.packages, settled.1.modules⟩, fun key object found => ?_⟩
  rw [Catalog.platformShelf, Table.get?_insert] at found
  split at found
  · rename_i same
    obtain rfl := Option.some.inj found
    exact same ▸ named
  · exact settled.2 key object found

theorem arch_of_fresh {platform : Platform} (ok : request.fresh store = .ok platform) :
    platform.arch = request.arch := by
  have lookups : ∀ file arch, Keeps (fun _ => True) (Catalog.module store file arch) fun _ => True :=
    fun _ _ _ _ => ⟨trivial, fun _ _ => trivial⟩
  exact ((Platform.keeps_resolve lookups store request.file request.arch request.sku? {} trivial).2 platform
    ok).arch_eq

/-- An answer is the platform of a request with the same key that has been made up to then, as it comes
out where nothing has been resolved before. It is the requested one exactly if it is for the requested
architecture. For another one it can only be if an earlier request with the key was for that, and no two
keys are the same as long as no architecture holds the sign between the parts of a key. -/
theorem platform_of_ask (store : RecordStore) (done : List PlatformRequest) (request : PlatformRequest)
    (platform : Shared Platform)
    (ok : ((request.ask store).run.run (BuildStep.afterAll (done.map (ask store)) {})).1 = .ok platform) :
    (∃ named ∈ done ++ [request], named.key = request.key ∧ named.fresh store = .ok platform.value) ∧
    (request.fresh store = .ok platform.value ↔ platform.value.arch = request.arch) ∧
    ((∀ earlier ∈ done, earlier.key = request.key → earlier.arch = request.arch) →
      request.fresh store = .ok platform.value) ∧
    ((∀ asked ∈ done ++ [request], ':' ∉ asked.arch.toList) → request.fresh store = .ok platform.value) := by
  have steps : ∀ step ∈ done.map (ask store), Keeps (Settled store (done ++ [request])) step fun _ => True :=
    List.forall_mem_map.2 fun earlier member =>
      (settled_ask (List.mem_append_left _ member)).mono fun _ _ => trivial
  have settled := BuildStep.afterAll_holds steps settled_empty
  have last : request ∈ done ++ [request] := by simp
  obtain ⟨named, member, sameKey, fresh⟩ := (settled_ask last _ settled).2 platform ok
  have requested (sameArch : named.arch = request.arch) : request.fresh store = .ok platform.value := by
    rw [← fresh_eq_of_key sameKey sameArch, fresh]
  refine ⟨⟨named, member, sameKey, fresh⟩, ⟨arch_of_fresh, fun sameArch => requested ?_⟩,
    fun alike => requested ?_, fun bare => requested ?_⟩
  · rw [← arch_of_fresh fresh, sameArch]
  · rcases List.mem_append.1 member with earlier | itself
    · exact alike named earlier sameKey
    · rw [List.mem_singleton.1 itself]
  · exact arch_eq_of_key sameKey (bare named member) (bare request last)

section Skus

def skuFile : SourcePath := .ofText "P.dsc"

def skuStore : RecordStore where
  files := .ofList [(skuFile,
    [(.defines, { values := ["PLATFORM_NAME", "P"] }), (.defines, { values := ["PLATFORM_GUID", "G"] }),
      (.skuIds, { values := ["1", "A:B"] }), (.skuIds, { values := ["2", "B"] })])]

/-- To ask for the stock keeping unit with the empty name gives what was found without one. -/
theorem platform_of_ask_emptySku :
    ∃ platform : Shared Platform,
      ((ask skuStore ⟨skuFile, "X64", some ""⟩).run.run (BuildStep.afterAll
        ([⟨skuFile, "IA32", none⟩, ⟨skuFile, "X64", none⟩].map (ask skuStore)) {})).1 = .ok platform ∧
      platform.serial = 1 ∧ fresh skuStore ⟨skuFile, "X64", some ""⟩ = .ok platform.value := by
  let done : List PlatformRequest := [⟨skuFile, "IA32", none⟩, ⟨skuFile, "X64", none⟩]
  have shown : ((ask skuStore ⟨skuFile, "X64", some ""⟩).run.run
      (BuildStep.afterAll (done.map (ask skuStore)) {})).1.toOption.map Shared.serial = some 1 := by
    decide +kernel
  obtain ⟨platform, after, ran, serial⟩ := BuildStep.exists_of_toOption shown
  have ok := congrArg Prod.fst ran
  refine ⟨platform, ok, serial, (platform_of_ask skuStore done _ platform ok).2.2.2 ?_⟩
  decide +kernel

/-- The key does not tell where the architecture ends. -/
theorem platform_of_sharedKey :
    ¬ ∀ (store : RecordStore) (done : List PlatformRequest) (request : PlatformRequest)
        (platform : Shared Platform),
      ((request.ask store).run.run (BuildStep.afterAll (done.map (ask store)) {})).1 = .ok platform →
        request.fresh store = .ok platform.value := by
  intro claimed
  let done : List PlatformRequest := [⟨skuFile, "X64", some "A:B"⟩]
  let request : PlatformRequest := ⟨skuFile, "X64:A", some "B"⟩
  have shown : ((ask skuStore request).run.run
      (BuildStep.afterAll (done.map (ask skuStore)) {})).1.toOption.map (·.value.arch) = some "X64" := by
    decide +kernel
  have requested : (request.fresh skuStore).toOption.map Platform.arch = some "X64:A" := by decide +kernel
  obtain ⟨platform, after, ran, arch⟩ := BuildStep.exists_of_toOption shown
  rw [claimed skuStore done request platform (congrArg Prod.fst ran)] at requested
  obtain same := arch.symm.trans (Option.some.inj requested)
  revert same
  decide

end Skus

end PlatformRequest

end UefiBuild
