import UefiBuild.Proofs.Step

namespace UefiBuild

namespace Checked

variable {ε ε' α β : Type}

def Fails (result : Except ε α) : Prop := ∃ failure, result = .error failure

instance (result : Except ε α) : Decidable (Fails result) :=
  match result with
  | .error failure => .isTrue ⟨failure, rfl⟩
  | .ok _ => .isFalse nofun

theorem fails_error (failure : ε) : Fails (.error failure : Except ε α) := ⟨failure, rfl⟩

theorem not_fails_ok (a : α) : ¬ Fails (.ok a : Except ε α) := nofun

def FailsAs (kind : FailureKind) (checked : Checked α) : Prop :=
  ∃ failure, checked = .error failure ∧ failure.kind = kind

theorem not_failsAs {checked : Checked α} {kind : FailureKind} {failure : Failure}
    (failed : checked = .error failure) (differs : failure.kind ≠ kind) : ¬ FailsAs kind checked := by
  rintro ⟨other, again, same⟩
  obtain rfl := Except.error.inj (failed.symm.trans again)
  exact differs same

theorem fails_ite_iff {refused : Prop} [Decidable refused] {failure : ε} {a : α} :
    Fails (if refused then .error failure else .ok a : Except ε α) ↔ refused := by
  split
  · rename_i held
    exact iff_of_true (fails_error failure) held
  · rename_i free
    exact iff_of_false (not_fails_ok a) free

theorem fails_bind_iff {step : Except ε α} {next : α → Except ε β} :
    Fails (step >>= next) ↔ Fails step ∨ ∃ a, step = .ok a ∧ Fails (next a) := by
  cases step <;> simp [Fails, Bind.bind, Except.bind]

theorem fails_map_iff {step : Except ε α} {f : α → β} : Fails (f <$> step) ↔ Fails step := by
  cases step <;> simp [Fails, Functor.map, Except.map]

theorem fails_mapError_iff {step : Except ε α} {change : ε → ε'} :
    Fails (step.mapError change) ↔ Fails step := by
  cases step <;> simp [Fails, Except.mapError]

theorem fails_forM_iff {step : α → Except ε PUnit} {l : List α} :
    Fails (l.forM step) ↔ ∃ a ∈ l, Fails (step a) := by
  induction l with
  | nil => exact iff_of_false (not_fails_ok _) (by simp)
  | cons a rest ih =>
    have first : (a :: rest).forM step = step a >>= fun _ => rest.forM step := rfl
    rw [first, fails_bind_iff, List.exists_mem_cons_iff, ih]
    cases step a with
    | error failure => simp [fails_error]
    | ok done => simp [not_fails_ok]

theorem fails_mapM_iff {step : α → Except ε β} {l : List α} :
    Fails (l.mapM step) ↔ ∃ a ∈ l, Fails (step a) := by
  induction l with
  | nil => exact iff_of_false (not_fails_ok _) (by simp)
  | cons a rest ih =>
    rw [List.mapM_cons, fails_bind_iff, List.exists_mem_cons_iff, ← ih]
    cases step a with
    | error failure => simp [fails_error]
    | ok b => simp [not_fails_ok, fails_map_iff]

end Checked

namespace BuildStep

variable {σ α β : Type}

/-- From a state, a step gives a result and leaves the state as it is. -/
def Reads (step : BuildStep σ α) (state : σ) (result : Checked α) : Prop :=
  step.run.run state = (result, state)

namespace Reads

variable {step : BuildStep σ α} {next : α → BuildStep σ β} {state : σ} {result : Checked α}

theorem unique {other : Checked α} (reads : Reads step state result) (again : Reads step state other) :
    result = other := (Prod.mk.inj (reads.symm.trans again)).1

theorem pure (a : α) (state : σ) : Reads (pure a) state (.ok a) := rfl

theorem ofChecked (checked : Checked α) (state : σ) : Reads (ofChecked checked) state checked := rfl

theorem bind {follow : α → Checked β} (first : Reads step state result)
    (second : ∀ a, result = .ok a → Reads (next a) state (follow a)) :
    Reads (step >>= next) state (result >>= follow) := by
  rw [Reads, run_bind, first]
  cases result with
  | error failure => rfl
  | ok a => exact second a rfl

theorem bind_ok {a : α} {result : Checked β} (first : Reads step state (.ok a))
    (second : Reads (next a) state result) : Reads (step >>= next) state result := by
  rw [Reads, run_bind, first]
  exact second

theorem forM {step : α → BuildStep σ PUnit} {result : α → Checked PUnit} {l : List α}
    (each : ∀ a ∈ l, Reads (step a) state (result a)) : Reads (l.forM step) state (l.forM result) := by
  induction l with
  | nil => rfl
  | cons a rest ih =>
    exact (each a (by simp)).bind fun _ _ => ih fun b member => each b (List.mem_cons_of_mem a member)

theorem mapM {step : α → BuildStep σ β} {result : α → Checked β} {l : List α}
    (each : ∀ a ∈ l, Reads (step a) state (result a)) : Reads (l.mapM step) state (l.mapM result) := by
  induction l with
  | nil => rfl
  | cons a rest ih =>
    rw [List.mapM_cons, List.mapM_cons]
    refine (each a (by simp)).bind fun b _ => Reads.bind ?_ fun others _ => .pure (b :: others) state
    exact ih fun c member => each c (List.mem_cons_of_mem a member)

theorem exists_mapM {step : α → BuildStep σ β} {l : List α}
    (each : ∀ a ∈ l, ∃ b, Reads (step a) state (.ok b)) :
    ∃ results, Reads (l.mapM step) state (.ok results) := by
  induction l with
  | nil => exact ⟨[], rfl⟩
  | cons a rest ih =>
    obtain ⟨b, here⟩ := each a (by simp)
    obtain ⟨others, there⟩ := ih fun c member => each c (List.mem_cons_of_mem a member)
    rw [List.mapM_cons]
    exact ⟨b :: others, here.bind_ok (there.bind_ok (.pure _ state))⟩

theorem request {κ : Type} [DecidableEq κ] [Numbered σ] {shelf : Shelf σ κ α} {key : κ}
    {object : Shared α} (found : (shelf.objects state).get? key = some object) (step : BuildStep σ α) :
    Reads (shelf.request key step) state (.ok object) := by
  have looked : (get : BuildStep σ σ).run.run state = (.ok state, state) := rfl
  rw [Reads, Shelf.request, run_bind, looked]
  dsimp only
  rw [found]
  rfl

end Reads

def Fails (step : BuildStep σ α) (state : σ) : Prop := Checked.Fails (step.run.run state).1

instance (step : BuildStep σ α) (state : σ) : Decidable (Fails step state) :=
  inferInstanceAs (Decidable (Checked.Fails _))

variable {step : BuildStep σ α} {next : α → BuildStep σ β} {state : σ}

theorem Reads.fails_iff {result : Checked α} (reads : Reads step state result) :
    Fails step state ↔ Checked.Fails result := by
  rw [Fails, reads]

theorem not_fails_pure (a : α) (state : σ) : ¬ Fails (pure a : BuildStep σ α) state :=
  Checked.not_fails_ok a

theorem Fails.bind (failed : Fails step state) : Fails (step >>= next) state := by
  obtain ⟨failure, same⟩ := failed
  rcases ran : step.run.run state with ⟨result, after⟩
  rw [ran] at same
  obtain rfl : result = .error failure := same
  exact ⟨failure, by rw [run_bind, ran]⟩

theorem exists_run_of_not_fails (quiet : ¬ Fails step state) :
    ∃ a after, step.run.run state = (.ok a, after) := by
  rcases ran : step.run.run state with ⟨failure | a, after⟩
  · exact absurd ⟨failure, by rw [ran]⟩ quiet
  · exact ⟨a, after, rfl⟩

theorem fails_bind_iff_of_run {a : α} {after : σ} (ran : step.run.run state = (.ok a, after)) :
    Fails (step >>= next) state ↔ Fails (next a) after := by
  rw [Fails, run_bind, ran]
  rfl

theorem fails_bind_iff_of_safe (safe : ∀ a after, ¬ Fails (next a) after) :
    Fails (step >>= next) state ↔ Fails step state := by
  refine ⟨fun failed => not_not.1 fun quiet => ?_, Fails.bind⟩
  obtain ⟨a, after, ran⟩ := exists_run_of_not_fails quiet
  exact safe a after ((fails_bind_iff_of_run ran).1 failed)

theorem not_fails_forM {step : α → BuildStep σ PUnit} (safe : ∀ a state, ¬ Fails (step a) state)
    (l : List α) (state : σ) : ¬ Fails (l.forM step) state := by
  induction l generalizing state with
  | nil => exact not_fails_pure _ state
  | cons a rest ih =>
    have first : (a :: rest).forM step = step a >>= fun _ => rest.forM step := rfl
    rw [first, fails_bind_iff_of_safe fun _ => ih]
    exact safe a state

end BuildStep

end UefiBuild
