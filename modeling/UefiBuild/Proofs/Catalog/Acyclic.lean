import UefiBuild.Proofs.Catalog.Reading

namespace UefiBuild

open BuildStep (Agrees Keeps request_cases)
open Relation (TransGen)

variable {store : RecordStore} {arch : String} {file other : SourcePath}

namespace Catalog

theorem moduleWithin_eq_of_descent {depth depth' : Nat} {along along' : List SourcePath}
    (acyclic : ∀ file, ¬ TransGen (Module.Refers store arch) file file)
    (descent : Descent store (Module.Refers store arch) along file depth)
    (another : Descent store (Module.Refers store arch) along' file depth') :
    moduleWithin store depth file arch = moduleWithin store depth' file arch := by
  induction depth generalizing along along' file depth' with
  | zero => exact absurd rfl descent.depth_ne_zero
  | succ depth ih =>
    obtain ⟨depth', rfl⟩ := Nat.exists_eq_succ_of_ne_zero another.depth_ne_zero
    refine congrArg (moduleShelf.request (file, arch)) (BuildStep.ofChecked_bind_congr fun _ present => ?_)
    refine Module.resolve_congr fun next refers => ?_
    have known := mem_keys_of_findFile present
    exact ih (descent.next acyclic known refers) (another.next acyclic known refers)

theorem module_eq (acyclic : ∀ file, ¬ TransGen (Module.Refers store arch) file file) (file : SourcePath) :
    module store file arch =
      moduleShelf.request (file, arch) (makeModule store (module store) file arch) := by
  refine congrArg (moduleShelf.request (file, arch)) (BuildStep.ofChecked_bind_congr fun _ present => ?_)
  refine Module.resolve_congr fun next refers => ?_
  have start : Descent store (Module.Refers store arch) [] file (store.fileCount + 1) := .start _ file
  have descent := start.next acyclic (mem_keys_of_findFile present) refers
  exact moduleWithin_eq_of_descent acyclic descent (.start _ next)

theorem module_agrees_of_descent (acyclic : ∀ file, ¬ TransGen (Module.Refers store arch) file file)
    {along : List SourcePath} {depth : Nat}
    (descent : Descent store (Module.Refers store arch) along file depth) :
    Agrees (fun _ => False) (Faithful store) (Module.content ∘ Shared.value) (module store file arch)
      (module store file arch) := by
  induction depth generalizing along file with
  | zero => exact absurd rfl descent.depth_ne_zero
  | succ depth ih =>
    have made : Agrees (fun _ => False) (Faithful store) Module.content
        (makeModule store (module store) file arch) (makeModule store (module store) file arch) := by
      refine makeModule_agrees (fun _ => False.elim) fun next refers => ?_
      obtain ⟨record, listed, -⟩ := id refers
      exact ih (descent.next acyclic (RecordStore.mem_keys_of_query listed) refers)
    have usual : Agrees Failure.Endless (Faithful store) (Module.content ∘ Shared.value)
        (module store file arch) (module store file arch) := module_agrees file arch
    refine ⟨usual.keeps, usual.keeps, fun catalog faithful other otherFaithful kept => ?_⟩
    -- Nothing is lost where one of the lookups finds a module that was made before.
    have here := usual.results catalog faithful other otherFaithful
    have there := usual.results other otherFaithful catalog faithful
    rw [module_eq acyclic] at here there kept ⊢
    rcases request_cases moduleShelf (file, arch) faithful made.keeps with ⟨object, _, _, _, ran⟩ | ran
    · exact here (ran ▸ Checked.not_isLost_ok _)
    rcases request_cases moduleShelf (file, arch) otherFaithful made.keeps with
      ⟨object, _, _, _, otherRan⟩ | otherRan
    · exact (there (otherRan ▸ Checked.not_isLost_ok _)).symm
    rw [← Checked.map_map, ← Checked.map_map, ran, otherRan]
    exact made.results catalog faithful other otherFaithful fun ⟨_, _, gone⟩ => gone

end Catalog

end UefiBuild
