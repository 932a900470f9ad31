import UefiBuild.Proofs.Agreement
import UefiBuild.Proofs.Catalog.References

namespace UefiBuild

open BuildStep (Agrees Ends Keeps)

theorem BuildStep.ofChecked_bind_eq {σ α β γ : Type} (checked : Checked α) (next : α → Checked β)
    (after : β → BuildStep σ γ) :
    ofChecked (checked >>= next) >>= after = ofChecked checked >>= fun a => ofChecked (next a) >>= after := by
  cases checked <;> rfl

namespace Module

def content (module : Module) : Module :=
  { module with packages := module.packages.map fun package => { package with serial := 0 } }

theorem content_content (module : Module) : module.content.content = module.content := by
  simp [content]

theorem content_setPackages {packages others : List (Shared Package)} (module : Module)
    (same : packages.map Shared.value = others.map Shared.value) :
    { module with packages := packages }.content = { module with packages := others }.content := by
  have bare : ∀ l : List (Shared Package), (l.map fun package => { package with serial := 0 }) =
      (l.map Shared.value).map (Shared.mk 0) := fun l => (List.map_map).symm
  simp only [content, bare, same]

/-- What the rows of a descriptor make of a module, given what its packages declare. -/
def settle (store : RecordStore) (file : SourcePath) (arch : String) (module : Module)
    (packages : List Package) : Checked Module := do
  let query (place : Section) : List Record := store.query file place (some arch) none
  let protocols ← symbols packages .protocol file (query .protocols)
  let ppis ← symbols packages .ppi file (query .ppis)
  let named ← symbols packages .guid file (query .guids)
  let includes ← module.resolveIncludes (query .includes)
  let (guids, pcds) ← pcdSections store packages file arch named
  return { module with
    sources := sourceFiles file.dir (query .sources)
    binaries := binaryFiles file.dir (query .binaries)
    libraryClasses := usedClasses (query .libraryClasses)
    libraryNames := distinct ((query .libraryInstances).map fun (record : Record) =>
      (SourcePath.ofText (record.value 0)).baseName)
    protocols, ppis, guids, includes, pcds
    options := (query .buildOptions).foldl
      (fun options record => options.append ⟨record.value 0, record.value 1⟩ (record.value 2)) ∅ }

theorem arch_of_settle {store : RecordStore} {file : SourcePath} {arch : String} {module settled : Module}
    {packages : List Package} (read : headed store file arch = .ok module)
    (ok : settle store file arch module packages = .ok settled) : settled.arch = arch := by
  obtain ⟨draft, -, finished⟩ := Checked.bind_eq_ok.1 read
  obtain ⟨_, -, ok⟩ := Checked.bind_eq_ok.1 ok
  obtain ⟨_, -, ok⟩ := Checked.bind_eq_ok.1 ok
  obtain ⟨_, -, ok⟩ := Checked.bind_eq_ok.1 ok
  obtain ⟨_, -, ok⟩ := Checked.bind_eq_ok.1 ok
  obtain ⟨_, -, ok⟩ := Checked.bind_eq_ok.1 ok
  obtain rfl := Checked.pure_eq_ok.1 ok
  exact (file_arch_of_finish finished).2

def heading (store : RecordStore) (file : SourcePath) (arch : String) : Resolve Module := do
  (HeaderDraft.unknownTypes file {} (store.query file .defines (some arch) none)).forM fun word =>
    Catalog.warn (.unknownLibraryType word)
  .ofChecked (headed store file arch)

def packageRow (store : RecordStore) (file : SourcePath) (arch : String) (record : Record) :
    Resolve (Shared Package) := do
  .ofChecked (((SourcePath.ofText (record.value 0)).validate ".dec").atLine file record.line)
  Catalog.package store (.ofText (record.value 0)) arch

theorem resolvePackages_eq (store : RecordStore) (file : SourcePath) (arch : String) :
    resolvePackages store file arch =
      (store.query file .packages (some arch) none).mapM (packageRow store file arch) := rfl

def depexRow (lookup : Lookup Module) (module : Module) (record : Record) :
    Resolve (List String × List DepexToken) := do
  return ([record.arch, record.scope],
    ← (Text.words (record.value 0)).mapM (depexToken lookup module record.line))

def prepare (store : RecordStore) (file : SourcePath) (arch : String) : Resolve Module := do
  let module ← heading store file arch
  let packages ← resolvePackages store file arch
  let module ← .ofChecked (settle store file arch module (packages.map Shared.value))
  return { module with packages }

/-- Of other modules only the dependency expressions speak, which come last. -/
theorem resolve_eq (store : RecordStore) (lookup : Lookup Module) (file : SourcePath) (arch : String) :
    resolve store lookup file arch = (do
      let module ← prepare store file arch
      let depex ← resolveDepex lookup module (store.query file .depex (some arch) none)
      return { module with depex }) := by
  simp only [resolve, prepare, heading, headed, settle, BuildStep.ofChecked_bind_eq, bind_assoc, pure_bind]
  rfl

theorem ends_prepare (store : RecordStore) (file : SourcePath) (arch : String) (catalog : Catalog) :
    Ends (prepare store file arch) catalog fun module _ => module.arch = arch := by
  have head : Ends (heading store file arch) catalog fun module _ => headed store file arch = .ok module :=
    .bind .any fun _ _ _ => .ofChecked fun _ => id
  refine head.bind fun module _ read => Ends.bind .any fun packages between _ => ?_
  have settled : Ends (.ofChecked (settle store file arch module (packages.map Shared.value))) between
      fun settled _ => settle store file arch module (packages.map Shared.value) = .ok settled :=
    .ofChecked fun _ => id
  refine settled.bind fun module _ done => .pure ?_
  exact (arch_of_settle read done : module.arch = arch)

section Keep

variable {inv : Catalog → Prop} {store : RecordStore} {file : SourcePath} {arch : String}
  {lookup : Lookup Module}

theorem keeps_heading (warned : ∀ warning, Keeps inv (Catalog.warn warning) fun _ => True) :
    Keeps inv (heading store file arch) fun _ => True :=
  (Keeps.forM fun _ _ => warned _).bind fun _ _ => (Keeps.ofChecked _).mono fun _ _ => trivial

theorem keeps_packageRow
    (packages : ∀ dec arch, Keeps inv (Catalog.package store dec arch) fun _ => True) (record : Record) :
    Keeps inv (packageRow store file arch record) fun _ => True :=
  (Keeps.ofChecked _).bind fun _ _ => packages _ _

theorem keeps_prepare (warned : ∀ warning, Keeps inv (Catalog.warn warning) fun _ => True)
    (packages : ∀ dec arch, Keeps inv (Catalog.package store dec arch) fun _ => True) :
    Keeps inv (prepare store file arch) fun _ => True := by
  refine (keeps_heading warned).bind fun module _ => ?_
  rw [resolvePackages_eq]
  refine (Keeps.mapM fun record _ => keeps_packageRow packages record).bind fun found _ => ?_
  exact (Keeps.ofChecked _).bind fun _ _ => .pure trivial

theorem keeps_depexRow (lookups : ∀ file arch, Keeps inv (lookup file arch) fun _ => True) (module : Module)
    (record : Record) : Keeps inv (depexRow lookup module record) fun _ => True :=
  (Keeps.mapM fun _ _ => keeps_depexToken lookups module _ _).bind fun _ _ => .pure trivial

end Keep

section Agree

variable {lost : Failure → Prop} {inv : Catalog → Prop} {store : RecordStore} {file : SourcePath}
  {arch : String} {lookup another : Lookup Module}

section Depex

variable {module : Module} {packages others : List (Shared Package)}
  (same : packages.map Shared.value = others.map Shared.value)
  (endless : ∀ failure, lost failure → failure.cause.isEndless)
include endless

theorem depexModule_agrees (line : Nat) {token : String}
    (lookups : Agrees lost inv (fun found => found.value.guid) (lookup (.ofText token) module.arch)
      (another (.ofText token) module.arch)) :
    Agrees lost inv id (depexModule lookup { module with packages := packages } line token)
      (depexModule another { module with packages := others } line token) := by
  unfold depexModule
  refine Agrees.tryCatch (lookups.bind fun _ _ same => .pure same) (fun failure => ?_) fun failure gone => ?_
  · split <;> exact .throw _
  · exact if_pos (endless failure gone)

include same

theorem depexToken_agrees (line : Nat) {token : String}
    (lookups : token ∉ depexWords → Text.endsWith ".inf" token →
      Agrees lost inv (fun found => found.value.guid) (lookup (.ofText token) module.arch)
        (another (.ofText token) module.arch)) :
    Agrees lost inv id (depexToken lookup { module with packages := packages } line token)
      (depexToken another { module with packages := others } line token) := by
  unfold depexToken
  split
  · exact .pure rfl
  · rename_i symbol
    split
    · rename_i named
      exact (depexModule_agrees endless line (lookups symbol named)).bind_id fun value => .pure rfl
    · dsimp only [packagesOf]
      rw [same]
      split
      · exact .pure rfl
      · exact .throw _

theorem resolveDepex_agrees (archSame : module.arch = arch)
    (lookups : ∀ other, Refers store arch file other → Agrees lost inv (fun found => found.value.guid)
      (lookup other arch) (another other arch)) :
    Agrees lost inv id
      (resolveDepex lookup { module with packages := packages } (store.query file .depex (some arch) none))
      (resolveDepex another { module with packages := others }
        (store.query file .depex (some arch) none)) := by
  subst archSame
  unfold resolveDepex
  dsimp only
  split
  · exact .pure rfl
  · split
    · exact .throw _
    · refine (Agrees.mapM_id fun record listed => ?_).bind_id fun rows => .pure rfl
      refine (Agrees.mapM_id fun token member => ?_).bind_id fun tokens => .pure rfl
      exact depexToken_agrees same endless record.line fun symbol named =>
        lookups _ ⟨record, listed, token, member, symbol, named, rfl⟩

end Depex

theorem resolve_agrees (endless : ∀ failure, lost failure → failure.cause.isEndless)
    (packages : ∀ dec, Agrees lost inv Shared.value (Catalog.package store dec arch)
      (Catalog.package store dec arch))
    (warned : ∀ warning, Keeps inv (Catalog.warn warning) fun _ => True)
    (lookups : ∀ other, Refers store arch file other →
      Agrees lost inv (content ∘ Shared.value) (lookup other arch) (another other arch)) :
    Agrees lost inv content (resolve store lookup file arch) (resolve store another file arch) := by
  simp only [resolve_eq, prepare, heading, bind_assoc, pure_bind]
  have rows : Agrees lost inv (List.map Shared.value) (resolvePackages store file arch)
      (resolvePackages store file arch) :=
    Agrees.mapM fun record _ => Agrees.ofChecked_bind fun _ _ => packages _
  refine Agrees.bind_id (Agrees.forM fun _ _ => ⟨warned _, warned _, fun _ _ _ _ => .refl _⟩) fun _ => ?_
  refine Agrees.ofChecked_bind fun module ok => rows.bind fun found others same => ?_
  -- The packages differ in their serials at most, which no row of the descriptor can tell.
  rw [← same]
  refine Agrees.ofChecked_bind fun settled done => ?_
  have depex := resolveDepex_agrees same endless (arch_of_settle ok done) fun other refers =>
    (lookups other refers).map fun content => content.guid
  exact depex.bind_id fun depex => .pure (content_setPackages { settled with depex } same)

end Agree

end Module

end UefiBuild
