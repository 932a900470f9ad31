import Mathlib.Logic.Relation
import UefiBuild.Catalog.Request
import UefiBuild.Proofs.Catalog.Module

namespace UefiBuild

open Relation (TransGen)

variable {store : RecordStore} {arch : String} {file other : SourcePath}

/-- A way down from file to file: each of the files that are left open leads to the one that is reached,
and there is room for every file that is not among them. -/
structure Descent (store : RecordStore) (leads : SourcePath → SourcePath → Prop)
    (along : List SourcePath) (file : SourcePath) (depth : Nat) : Prop where
  nodup : along.Nodup
  known : ∀ other ∈ along, other ∈ store.files.keys
  leads : ∀ other ∈ along, TransGen leads other file
  fits : store.fileCount < depth + along.length

namespace Descent

variable {leads : SourcePath → SourcePath → Prop} {along : List SourcePath} {depth : Nat}

theorem start (leads : SourcePath → SourcePath → Prop) (file : SourcePath) :
    Descent store leads [] file (store.fileCount + 1) :=
  ⟨List.nodup_nil, nofun, nofun, by simp⟩

theorem depth_ne_zero (descent : Descent store leads along file depth) : depth ≠ 0 := by
  rintro rfl
  have bounded := RecordStore.length_le_fileCount descent.nodup descent.known
  have fits := descent.fits
  omega

theorem not_mem (descent : Descent store leads along file depth)
    (acyclic : ∀ file, ¬ TransGen leads file file) : file ∉ along :=
  fun member => acyclic file (descent.leads file member)

theorem next (descent : Descent store leads along file (depth + 1))
    (acyclic : ∀ file, ¬ TransGen leads file file) (known : file ∈ store.files.keys)
    (step : leads file other) : Descent store leads (file :: along) other depth where
  nodup := List.nodup_cons.2 ⟨descent.not_mem acyclic, descent.nodup⟩
  known one member := by
    rcases List.mem_cons.1 member with rfl | above
    · exact known
    · exact descent.known one above
  leads one member := by
    rcases List.mem_cons.1 member with rfl | above
    · exact .single step
    · exact (descent.leads one above).tail step
  fits := by
    have fits := descent.fits
    rw [List.length_cons]
    omega

end Descent

namespace Module

def Refers (store : RecordStore) (arch : String) (file other : SourcePath) : Prop :=
  ∃ record ∈ store.query file .depex (some arch) none, ∃ token ∈ Text.words (record.value 0),
    token ∉ depexWords ∧ Text.endsWith ".inf" token ∧ SourcePath.ofText token = other

section Congr

variable {lookup another : Lookup Module}

theorem depexToken_congr {module : Module} {token : String} (line : Nat)
    (same : token ∉ depexWords → Text.endsWith ".inf" token →
      lookup (.ofText token) module.arch = another (.ofText token) module.arch) :
    depexToken lookup module line token = depexToken another module line token := by
  unfold depexToken depexModule
  split
  · rfl
  · rename_i symbol
    split
    · rename_i named
      rw [same symbol named]
    · rfl

theorem resolve_congr
    (same : ∀ other, Refers store arch file other → lookup other arch = another other arch) :
    resolve store lookup file arch = resolve store another file arch := by
  have depex : ∀ module : Module, module.arch = arch →
      resolveDepex lookup module (store.query file .depex (some arch) none) =
        resolveDepex another module (store.query file .depex (some arch) none) := by
    rintro module rfl
    have rows : ∀ record ∈ store.query file .depex (some module.arch) none,
        (Text.words (record.value 0)).mapM (depexToken lookup module record.line) =
          (Text.words (record.value 0)).mapM (depexToken another module record.line) := by
      intro record listed
      refine BuildStep.mapM_congr fun token member => depexToken_congr record.line fun symbol named => ?_
      exact same _ ⟨record, listed, token, member, symbol, named, rfl⟩
    unfold resolveDepex
    rw [BuildStep.mapM_congr fun record listed => by rw [rows record listed]]
  unfold resolve
  dsimp only
  refine bind_congr fun _ => BuildStep.ofChecked_bind_congr fun draft _ =>
    BuildStep.ofChecked_bind_congr fun module finished => bind_congr fun packages => bind_congr fun _ =>
    bind_congr fun _ => bind_congr fun _ => bind_congr fun _ => bind_congr fun _ => ?_
  rw [depex]
  exact (file_arch_of_finish finished).2

end Congr

end Module

namespace Catalog

/-- Looks a module up as `moduleWithin` does, but goes on with `stuck` where it has come back to a file
that it has left open, or has gone too deep. -/
def moduleWithinOr (stuck : SourcePath → Resolve (Shared Module)) (store : RecordStore) :
    Nat → List SourcePath → Lookup Module
  | 0, _ => fun file _ => stuck file
  | depth + 1, along => fun file arch =>
    if file ∈ along then stuck file
    else moduleShelf.request (file, arch) do
      .ofChecked (findFile store file ".inf")
      Module.resolve store (moduleWithinOr stuck store depth (file :: along)) file arch

def moduleOr (stuck : SourcePath → Resolve (Shared Module)) (store : RecordStore) : Lookup Module :=
  moduleWithinOr stuck store (store.fileCount + 1) []

theorem mem_keys_of_findFile {extension : String} (ok : findFile store file extension = .ok ()) :
    file ∈ store.files.keys := by
  obtain ⟨_, -, ok⟩ := Checked.bind_eq_ok.1 ok
  split at ok
  · rename_i present
    exact Table.mem_keys.2 present
  · cases ok

theorem moduleWithin_eq_moduleWithinOr (stuck : SourcePath → Resolve (Shared Module)) {depth : Nat}
    {along : List SourcePath} (acyclic : ∀ file, ¬ TransGen (Module.Refers store arch) file file)
    (descent : Descent store (Module.Refers store arch) along file depth) :
    moduleWithin store depth file arch = moduleWithinOr stuck store depth along file arch := by
  induction depth generalizing along file with
  | zero => exact absurd rfl descent.depth_ne_zero
  | succ depth ih =>
    unfold moduleWithin moduleWithinOr
    rw [if_neg (descent.not_mem acyclic)]
    refine congrArg (moduleShelf.request (file, arch)) (BuildStep.ofChecked_bind_congr fun _ present => ?_)
    refine Module.resolve_congr fun other refers => ?_
    exact ih (descent.next acyclic (mem_keys_of_findFile present) refers)

/-- Where no dependency expressions lead from a module back to it, looking one up comes to an end. -/
theorem module_eq_moduleOr (stuck : SourcePath → Resolve (Shared Module))
    (acyclic : ∀ arch file, ¬ TransGen (Module.Refers store arch) file file) :
    module store = moduleOr stuck store := by
  funext file arch
  exact moduleWithin_eq_moduleWithinOr stuck (acyclic arch) (.start _ file)

end Catalog

end UefiBuild
