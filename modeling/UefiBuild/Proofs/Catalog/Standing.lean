import UefiBuild.Library.Legacy
import UefiBuild.Proofs.Catalog.Filled

namespace UefiBuild

open BuildStep (Ends)

namespace Catalog

variable {α β : Type} {store : RecordStore} {catalog after : Catalog} {step : Resolve α} {a b : α}

/-- From every catalog that still has the modules of this one, a step comes to the same, and keeps no
further module. -/
def Stands (step : Resolve α) (catalog : Catalog) (a : α) : Prop :=
  ∀ later : Catalog,
    (∀ key module, catalog.modules.get? key = some module → later.modules.get? key = some module) →
    ∃ last, step.run.run later = (.ok a, last) ∧ last.modules = later.modules

namespace Stands

theorem mono (stands : Stands step catalog a)
    (kept : ∀ key module, catalog.modules.get? key = some module → after.modules.get? key = some module) :
    Stands step after a :=
  fun later more => stands later fun key module found => more key module (kept key module found)

theorem unique (stands : Stands step catalog a) (other : Stands step catalog b) : a = b := by
  obtain ⟨_, ran, -⟩ := stands catalog fun _ _ => id
  obtain ⟨_, again, -⟩ := other catalog fun _ _ => id
  exact Except.ok.inj (congrArg Prod.fst (ran.symm.trans again))

theorem pure (a : α) (catalog : Catalog) : Stands (pure a) catalog a := fun later _ => ⟨later, rfl, rfl⟩

theorem ofChecked {checked : Checked α} (ok : checked = .ok a) (catalog : Catalog) :
    Stands (.ofChecked checked) catalog a := by
  subst ok
  exact fun later _ => ⟨later, rfl, rfl⟩

theorem bind {next : α → Resolve β} {b : β} (first : Stands step catalog a)
    (second : Stands (next a) catalog b) : Stands (step >>= next) catalog b := by
  intro later kept
  obtain ⟨between, ran, same⟩ := first later kept
  obtain ⟨last, more, still⟩ := second between fun key module found => same ▸ kept key module found
  exact ⟨last, (BuildStep.run_bind_ok ran).trans more, still.trans same⟩

theorem warn (warning : Warning) (catalog : Catalog) : Stands (warn warning) catalog () :=
  fun _ _ => ⟨_, rfl, rfl⟩

theorem module {file : SourcePath} {arch : String} {found : Shared Module}
    (kept : catalog.modules.get? (file, arch) = some found) :
    Stands (Catalog.module store file arch) catalog found := by
  intro later more
  refine ⟨later, ?_, rfl⟩
  have here : (moduleShelf.objects later).get? (file, arch) = some found := more _ _ kept
  rw [Catalog.module, moduleWithin, BuildStep.run_request, here]

end Stands

/-- Where a step succeeds, it has found all modules that it needs to come to the same again. -/
def Repeats (store : RecordStore) (step : Resolve α) : Prop :=
  ∀ catalog, FilledFrom store catalog → Ends step catalog fun a after =>
    FilledFrom store after ∧ Follows store catalog after ∧ Stands step after a

namespace Repeats

theorem pure (a : α) : Repeats store (pure a) :=
  fun catalog filled => .pure ⟨filled, ⟨filled.read, fun _ _ => id⟩, .pure a catalog⟩

theorem throw (failure : Failure) : Repeats store (throw failure : Resolve α) := fun _ _ => .throw failure

theorem ofChecked (checked : Checked α) : Repeats store (.ofChecked checked) :=
  fun catalog filled => .ofChecked fun _ ok =>
    ⟨filled, ⟨filled.read, fun _ _ => id⟩, .ofChecked ok catalog⟩

theorem bind {next : α → Resolve β} (first : Repeats store step)
    (second : ∀ a, Repeats store (next a)) : Repeats store (step >>= next) := by
  intro catalog filled
  refine (first catalog filled).bind fun a between ⟨filled, follows, stands⟩ => ?_
  refine (second a between filled).mono fun b after ⟨filled, more, standsToo⟩ => ?_
  exact ⟨filled, ⟨more.read, fun key module found => more.kept key module (follows.kept key module found)⟩,
    (stands.mono more.kept).bind standsToo⟩

theorem warn (warning : Warning) : Repeats store (warn warning) := fun _ filled =>
  (filled.ends_warn warning).mono fun _ after ⟨filled, same⟩ =>
    ⟨filled, ⟨filled.read, fun _ _ found => same ▸ found⟩, .warn warning after⟩

theorem module (file : SourcePath) (arch : String) : Repeats store (Catalog.module store file arch) :=
  fun _ filled => (filled.ends_module file arch).mono fun _ _ ⟨filled, follows, found⟩ =>
    ⟨filled, follows, .module found⟩

theorem foldlM {next : β → α → Resolve β} (each : ∀ b a, Repeats store (next b a)) (l : List α) (b : β) :
    Repeats store (l.foldlM next b) := by
  induction l generalizing b with
  | nil => exact .pure b
  | cons a rest ih =>
    rw [List.foldlM_cons]
    exact (each b a).bind ih

end Repeats

end Catalog

open Catalog (Repeats)

variable {store : RecordStore}

namespace LinkSearch

variable (platform : Platform) (module : Shared Module)

theorem repeats_bind (search : LinkSearch) (consumer : Shared Module) (libraryClass : String)
    (suggested : Option SourcePath) :
    Repeats store (bind (Catalog.module store) platform module consumer search libraryClass suggested) := by
  unfold bind
  split
  · rw [pure_bind]
    refine (Repeats.module _ _).bind fun library => ?_
    split
    · exact .throw _
    · exact .pure _
  · exact .throw _

theorem repeats_consume (consumer : Shared Module) (search : LinkSearch) (use : String × Option SourcePath) :
    Repeats store (consume (Catalog.module store) platform module consumer search use) := by
  unfold consume
  split
  · rw [pure_bind]
    exact .pure _
  · exact (repeats_bind platform module search consumer use.1 use.2).bind fun _ => .pure _

theorem repeats_run (room : Nat) (search : LinkSearch) :
    Repeats store (run (Catalog.module store) platform module room search) := by
  induction room generalizing search with
  | zero => exact .throw _
  | succ room ih =>
    unfold run
    split
    · exact .pure _
    · exact (Repeats.foldlM (repeats_consume platform module _) _ _).bind ih

end LinkSearch

namespace Platform

theorem LegacySearch.repeats_find (platform : Platform) (module : Module) (search : LegacySearch)
    (name : String) : Repeats store (find (Catalog.module store) platform module search name) := by
  unfold find
  split
  · exact (Repeats.warn _).bind fun _ => .pure _
  · refine (Repeats.module _ _).bind fun library => ?_
    split <;> exact .pure _

theorem LegacySearch.repeats_run (platform : Platform) (module : Module) (room : Nat)
    (search : LegacySearch) : Repeats store (run (Catalog.module store) platform module room search) := by
  induction room generalizing search with
  | zero => exact .throw _
  | succ room ih =>
    unfold run
    split
    · exact .pure _
    · exact (Repeats.foldlM (repeats_find platform module) _ _).bind ih

theorem repeats_linked (platform : Platform) (module : Shared Module) :
    Repeats store (platform.linked store (Catalog.module store) module) := by
  unfold linked
  split
  · exact .pure _
  · split
    · exact LegacySearch.repeats_run platform module.value _ _
    · exact (LinkSearch.repeats_run platform module _ _).bind fun _ => .ofChecked _

end Platform

end UefiBuild
