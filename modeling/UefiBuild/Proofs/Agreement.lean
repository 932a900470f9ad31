import UefiBuild.Proofs.Step

namespace UefiBuild

variable {lost : Failure → Prop} {σ α β γ δ : Type}

namespace Checked

def IsLost (lost : Failure → Prop) (result : Checked α) : Prop :=
  ∃ failure, result = .error failure ∧ lost failure

/-- Another result is the same as a given one, unless that one is lost. -/
def Agrees (lost : Failure → Prop) (result other : Checked α) : Prop :=
  ¬ IsLost lost result → result = other

theorem not_isLost_ok (a : α) : ¬ IsLost lost (.ok a : Checked α) := by
  rintro ⟨failure, failed, -⟩
  cases failed

theorem map_eq_ok {result : Checked α} {f : α → β} {b : β} :
    result.map f = .ok b ↔ ∃ a, result = .ok a ∧ f a = b := by
  cases result <;> simp [Except.map]

theorem map_eq_error {result : Checked α} {f : α → β} {failure : Failure} :
    result.map f = .error failure ↔ result = .error failure := by
  cases result <;> simp [Except.map]

theorem map_map (result : Checked α) (f : α → β) (g : β → γ) :
    (result.map f).map g = result.map (g ∘ f) := by
  cases result <;> rfl

theorem isLost_map {result : Checked α} {f : α → β} : IsLost lost (result.map f) ↔ IsLost lost result := by
  simp only [IsLost, map_eq_error]

namespace Agrees

variable {result other last : Checked α}

theorem refl (result : Checked α) : Agrees lost result result := fun _ => rfl

theorem trans (agrees : Agrees lost result other) (more : Agrees lost other last) :
    Agrees lost result last := by
  intro kept
  have same := agrees kept
  exact same.trans (more (same ▸ kept))

theorem map (agrees : Agrees lost result other) (f : α → β) :
    Agrees lost (result.map f) (other.map f) := fun kept =>
  congrArg (Except.map f) (agrees (mt isLost_map.2 kept))

theorem eq_ok {a : α} (agrees : Agrees lost result other) (ok : result = .ok a) : other = .ok a :=
  (agrees (ok ▸ not_isLost_ok a)).symm.trans ok

theorem cases {view : α → β} (agrees : Agrees lost (result.map view) (other.map view)) :
    (∃ a b, result = .ok a ∧ other = .ok b ∧ view a = view b) ∨
      ∃ failure, result = .error failure ∧ (lost failure ∨ other = .error failure) := by
  cases result with
  | ok a =>
    obtain ⟨b, ok, same⟩ := map_eq_ok.1 (agrees (not_isLost_ok (view a))).symm
    exact .inl ⟨a, b, rfl, ok, same.symm⟩
  | error failure =>
    by_cases gone : lost failure
    · exact .inr ⟨failure, rfl, .inl gone⟩
    · refine .inr ⟨failure, rfl, .inr (map_eq_error.1 (agrees ?_).symm)⟩
      rintro ⟨other, same, gone'⟩
      obtain rfl := Except.error.inj same
      exact gone gone'

end Agrees

end Checked

namespace BuildStep

/-- Two steps that come to the same, as far as a view tells, unless the first one is lost. That holds
from whatever states with the invariant they start, and both keep it. -/
structure Agrees (lost : Failure → Prop) (inv : σ → Prop) (view : α → β) (step other : BuildStep σ α) :
    Prop where
  keeps : Keeps inv step fun _ => True
  keepsOther : Keeps inv other fun _ => True
  results : ∀ state, inv state → ∀ otherState, inv otherState →
    Checked.Agrees lost ((step.run.run state).1.map view) ((other.run.run otherState).1.map view)

namespace Agrees

variable {inv : σ → Prop} {view : α → β} {step other : BuildStep σ α}

theorem run_cases (agrees : Agrees lost inv view step other) {state otherState between otherBetween : σ}
    {result otherResult : Checked α} (before : inv state) (otherBefore : inv otherState)
    (ran : step.run.run state = (result, between))
    (otherRan : other.run.run otherState = (otherResult, otherBetween)) :
    inv between ∧ inv otherBetween ∧
      ((∃ a b, result = .ok a ∧ otherResult = .ok b ∧ view a = view b) ∨
        ∃ failure, result = .error failure ∧ (lost failure ∨ otherResult = .error failure)) := by
  have kept := (agrees.keeps state before).1
  have otherKept := (agrees.keepsOther otherState otherBefore).1
  have results := (agrees.results state before otherState otherBefore).cases
  rw [ran] at kept results
  rw [otherRan] at otherKept results
  exact ⟨kept, otherKept, results⟩

theorem trans {last : BuildStep σ α} (agrees : Agrees lost inv view step other)
    (more : Agrees lost inv view other last) : Agrees lost inv view step last :=
  ⟨agrees.keeps, more.keepsOther, fun state before lastState lastBefore =>
    (agrees.results state before state before).trans (more.results state before lastState lastBefore)⟩

theorem map (agrees : Agrees lost inv view step other) (f : β → γ) :
    Agrees lost inv (f ∘ view) step other :=
  ⟨agrees.keeps, agrees.keepsOther, fun state before otherState otherBefore => by
    rw [← Checked.map_map, ← Checked.map_map]
    exact (agrees.results state before otherState otherBefore).map f⟩

theorem pure {a b : α} (same : view a = view b) : Agrees lost inv view (pure a) (pure b) :=
  ⟨.pure trivial, .pure trivial, fun _ _ _ _ _ => congrArg Except.ok same⟩

theorem throw (failure : Failure) : Agrees lost inv view (throw failure) (throw failure) :=
  ⟨.throw failure, .throw failure, fun _ _ _ _ => .refl _⟩

theorem ofChecked (result : Checked α) : Agrees lost inv view (ofChecked result) (.ofChecked result) :=
  ⟨(Keeps.ofChecked _).mono fun _ _ => trivial, (Keeps.ofChecked _).mono fun _ _ => trivial,
    fun _ _ _ _ => .refl _⟩

theorem bind {otherView : γ → δ} {next after : α → BuildStep σ γ}
    (first : Agrees lost inv view step other)
    (second : ∀ a b, view a = view b → Agrees lost inv otherView (next a) (after b)) :
    Agrees lost inv otherView (step >>= next) (other >>= after) := by
  refine ⟨first.keeps.bind fun a _ => (second a a rfl).keeps,
    first.keepsOther.bind fun b _ => (second b b rfl).keepsOther, ?_⟩
  intro state before otherState otherBefore
  rw [run_bind, run_bind]
  rcases ran : step.run.run state with ⟨result, between⟩
  rcases otherRan : other.run.run otherState with ⟨otherResult, otherBetween⟩
  obtain ⟨kept, otherKept, results⟩ := first.run_cases before otherBefore ran otherRan
  rcases results with ⟨a, b, rfl, rfl, same⟩ | ⟨failure, rfl, gone | rfl⟩
  · exact (second a b same).results between kept otherBetween otherKept
  · exact fun found => absurd ⟨failure, rfl, gone⟩ found
  · exact .refl _

theorem bind_id {one another : BuildStep σ γ} {next after : γ → BuildStep σ α}
    (first : Agrees lost inv id one another) (second : ∀ a, Agrees lost inv view (next a) (after a)) :
    Agrees lost inv view (one >>= next) (another >>= after) :=
  first.bind fun a b alike => by
    obtain rfl : a = b := alike
    exact second a

theorem ofChecked_bind {result : Checked γ} {next after : γ → BuildStep σ α}
    (second : ∀ a, result = .ok a → Agrees lost inv view (next a) (after a)) :
    Agrees lost inv view (BuildStep.ofChecked result >>= next) (.ofChecked result >>= after) := by
  cases result with
  | error failure => exact throw failure
  | ok a => exact second a rfl

theorem mapM {step other : γ → BuildStep σ α} {l : List γ}
    (each : ∀ a ∈ l, Agrees lost inv view (step a) (other a)) :
    Agrees lost inv (List.map view) (l.mapM step) (l.mapM other) := by
  induction l with
  | nil => exact .pure rfl
  | cons a rest ih =>
    rw [List.mapM_cons, List.mapM_cons]
    refine (each a (by simp)).bind fun b c same => ?_
    refine (ih fun b member => each b (List.mem_cons_of_mem a member)).bind fun bs cs others => ?_
    exact .pure (by rw [List.map_cons, List.map_cons, same, others])

theorem mapM_id {step other : γ → BuildStep σ α} {l : List γ}
    (each : ∀ a ∈ l, Agrees lost inv id (step a) (other a)) :
    Agrees lost inv id (l.mapM step) (l.mapM other) := by
  have agrees := mapM each
  rwa [List.map_id_fun] at agrees

theorem foldlM {step other : α → γ → BuildStep σ α} {l : List γ} (start : α)
    (each : ∀ b, ∀ a ∈ l, Agrees lost inv id (step b a) (other b a)) :
    Agrees lost inv id (l.foldlM step start) (l.foldlM other start) := by
  induction l generalizing start with
  | nil => exact .pure rfl
  | cons a rest ih =>
    rw [List.foldlM_cons, List.foldlM_cons]
    exact (each start a (by simp)).bind_id fun b =>
      ih b fun b c member => each b c (List.mem_cons_of_mem a member)

theorem forM {step other : γ → BuildStep σ PUnit} {l : List γ}
    (each : ∀ a ∈ l, Agrees lost inv id (step a) (other a)) :
    Agrees lost inv id (l.forM step) (l.forM other) := by
  induction l with
  | nil => exact .pure rfl
  | cons a rest ih =>
    exact (each a (by simp)).bind_id fun _ => ih fun b member => each b (List.mem_cons_of_mem a member)

theorem tryCatch {handle : Failure → BuildStep σ α} (agrees : Agrees lost inv view step other)
    (handled : ∀ failure, Agrees lost inv view (handle failure) (handle failure))
    (shown : ∀ failure, lost failure → handle failure = MonadExcept.throw failure) :
    Agrees lost inv view (tryCatch step handle) (tryCatch other handle) := by
  refine ⟨.tryCatch agrees.keeps fun failure => (handled failure).keeps,
    .tryCatch agrees.keepsOther fun failure => (handled failure).keeps, ?_⟩
  intro state before otherState otherBefore
  rw [run_tryCatch, run_tryCatch]
  rcases ran : step.run.run state with ⟨result, between⟩
  rcases otherRan : other.run.run otherState with ⟨otherResult, otherBetween⟩
  obtain ⟨kept, otherKept, results⟩ := agrees.run_cases before otherBefore ran otherRan
  rcases results with ⟨a, b, rfl, rfl, same⟩ | ⟨failure, rfl, gone | rfl⟩
  · exact fun _ => congrArg Except.ok same
  · have thrown : ((handle failure).run.run between).1 = .error failure := by
      rw [shown failure gone]
      rfl
    exact fun found => absurd (Checked.isLost_map.2 ⟨failure, thrown, gone⟩) found
  · exact (handled failure).results between kept otherBetween otherKept

end Agrees

theorem request_cases {κ : Type} [DecidableEq κ] [Numbered σ] (shelf : Shelf σ κ α) (key : κ)
    {make : BuildStep σ α} {inv : σ → Prop} {state : σ} (before : inv state)
    (keeps : Keeps inv make fun _ => True) :
    (∃ object between, inv between ∧ (shelf.objects between).get? key = some object ∧
        ((shelf.request key make).run.run state).1 = .ok object) ∨
      ((shelf.request key make).run.run state).1.map Shared.value = (make.run.run state).1 := by
  rw [run_request]
  cases found : (shelf.objects state).get? key with
  | some object => exact .inl ⟨object, state, before, found, rfl⟩
  | none =>
    have kept := (keeps state before).1
    rcases ran : make.run.run state with ⟨failure | value, after⟩
    · exact .inr rfl
    · rw [ran] at kept
      dsimp only
      rw [Shelf.keep]
      -- Making the object may have put another on the shelf.
      cases meanwhile : (shelf.objects after).get? key with
      | some object => exact .inl ⟨object, after, kept, meanwhile, rfl⟩
      | none => exact .inr rfl

end BuildStep

end UefiBuild
