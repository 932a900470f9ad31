import UefiBuild.Shelf
import UefiBuild.Proofs.Checked

namespace UefiBuild.BuildStep

open List (Forall₂)

variable {σ α β : Type}

/-- A step keeps an invariant of the state, also where it fails, and what it returns is as `post`
says. -/
def Keeps (inv : σ → Prop) (step : BuildStep σ α) (post : α → Prop) : Prop :=
  ∀ state, inv state → inv (step.run.run state).2 ∧ ∀ a, (step.run.run state).1 = .ok a → post a

theorem run_bind (step : BuildStep σ α) (next : α → BuildStep σ β) (state : σ) :
    (step >>= next).run.run state =
      match step.run.run state with
      | (.ok a, after) => (next a).run.run after
      | (.error failure, after) => (.error failure, after) := by
  change (ExceptT.bindCont next (step.run.run state).1).run (step.run.run state).2 = _
  rcases step.run.run state with ⟨_ | _, _⟩ <;> rfl

theorem run_bind_ok {step : BuildStep σ α} {next : α → BuildStep σ β} {state between : σ} {a : α}
    (ran : step.run.run state = (.ok a, between)) :
    (step >>= next).run.run state = (next a).run.run between := by
  rw [run_bind, ran]

theorem run_map (f : α → β) (step : BuildStep σ α) (state : σ) :
    (f <$> step).run.run state = ((step.run.run state).1.map f, (step.run.run state).2) := by
  rw [map_eq_pure_bind, run_bind]
  rcases step.run.run state with ⟨_ | _, _⟩ <;> rfl

theorem run_tryCatch (step : BuildStep σ α) (handle : Failure → BuildStep σ α) (state : σ) :
    (tryCatch step handle).run.run state =
      match step.run.run state with
      | (.ok a, after) => (.ok a, after)
      | (.error failure, after) => (handle failure).run.run after := by
  rw [ExceptT.run_tryCatch, StateT.run_bind]
  rcases step.run.run state with ⟨_ | _, _⟩ <;> rfl

theorem run_request {κ : Type} [DecidableEq κ] [Numbered σ] (shelf : Shelf σ κ α) (key : κ)
    (make : BuildStep σ α) (state : σ) :
    (shelf.request key make).run.run state =
      match (shelf.objects state).get? key with
      | some object => (.ok object, state)
      | none =>
        match make.run.run state with
        | (.ok value, after) => (.ok (shelf.keep key value after).1, (shelf.keep key value after).2)
        | (.error failure, after) => (.error failure, after) := by
  have looked : (shelf.request key make).run.run state =
      (match (shelf.objects state).get? key with
      | some object => (pure object : BuildStep σ (Shared α))
      | none => make >>= fun value => modifyGet (shelf.keep key value)).run.run state := rfl
  rw [looked]
  cases (shelf.objects state).get? key with
  | some object => rfl
  | none =>
    dsimp only
    rw [run_bind]
    rcases make.run.run state with ⟨_ | _, _⟩ <;> rfl

theorem run_request_of_absent {κ : Type} [DecidableEq κ] [Numbered σ] {shelf : Shelf σ κ α} {key : κ}
    {state : σ} (absent : (shelf.objects state).get? key = none) (make : BuildStep σ α) :
    (shelf.request key make).run.run state =
      (make >>= fun value => modifyGet (shelf.keep key value)).run.run state := by
  rw [run_request, absent, run_bind]
  rcases make.run.run state with ⟨_ | _, _⟩ <;> rfl

theorem exists_of_toOption {step : BuildStep σ α} {state : σ} {f : α → β} {b : β}
    (shown : (step.run.run state).1.toOption.map f = some b) :
    ∃ a after, step.run.run state = (.ok a, after) ∧ f a = b := by
  rcases ran : step.run.run state with ⟨_ | a, after⟩
  · rw [ran] at shown
    cases shown
  · rw [ran] at shown
    exact ⟨a, after, rfl, Option.some.inj shown⟩

def Ends (step : BuildStep σ α) (state : σ) (post : α → σ → Prop) : Prop :=
  ∀ a after, step.run.run state = (.ok a, after) → post a after

namespace Ends

variable {step : BuildStep σ α} {next : α → BuildStep σ β} {state : σ} {post mid : α → σ → Prop}
  {last : β → σ → Prop}

theorem any : Ends step state fun _ _ => True := fun _ _ _ => trivial

theorem mono (ends : Ends step state mid) (weaker : ∀ a after, mid a after → post a after) :
    Ends step state post := fun a after ran => weaker a after (ends a after ran)

theorem and (ends : Ends step state mid) (also : Ends step state post) :
    Ends step state fun a after => mid a after ∧ post a after :=
  fun a after ran => ⟨ends a after ran, also a after ran⟩

theorem pure {a : α} (holds : post a state) : Ends (pure a) state post := by
  intro b after ran
  obtain ⟨same, rfl⟩ := Prod.mk.inj ran
  obtain rfl := Except.ok.inj same
  exact holds

theorem throw (failure : Failure) : Ends (throw failure) state post := by
  intro a after ran
  cases (Prod.mk.inj ran).1

theorem ofChecked {checked : Checked α} (holds : ∀ a, checked = .ok a → post a state) :
    Ends (.ofChecked checked) state post := by
  intro a after ran
  obtain ⟨ok, rfl⟩ := Prod.mk.inj ran
  exact holds a ok

theorem bind (first : Ends step state mid)
    (second : ∀ a after, mid a after → Ends (next a) after last) : Ends (step >>= next) state last := by
  intro b after ran
  rw [run_bind] at ran
  rcases here : step.run.run state with ⟨_ | a, between⟩
  · rw [here] at ran
    cases (Prod.mk.inj ran).1
  · rw [here] at ran
    exact second a between (first a between here) b after ran

theorem get : Ends (get : BuildStep σ σ) state fun a after => a = state ∧ after = state := by
  intro a after ran
  obtain ⟨same, rfl⟩ := Prod.mk.inj ran
  obtain rfl := Except.ok.inj same
  exact ⟨rfl, rfl⟩

theorem modifyGet {change : σ → α × σ} (holds : post (change state).1 (change state).2) :
    Ends (modifyGet change : BuildStep σ α) state post := by
  intro a after ran
  obtain ⟨same, rfl⟩ := Prod.mk.inj ran
  obtain rfl := Except.ok.inj same
  exact holds

theorem foldlM {step : β → α → BuildStep σ β} {inv : List α → β → σ → Prop} {l : List α} {start : β}
    (first : inv l start state)
    (each : ∀ a rest b state, inv (a :: rest) b state → Ends (step b a) state (inv rest)) :
    Ends (l.foldlM step start) state (inv []) := by
  induction l generalizing start state with
  | nil => exact .pure first
  | cons a rest ih =>
    rw [List.foldlM_cons]
    exact (each a rest start state first).bind fun _ _ => ih

theorem request {κ : Type} [DecidableEq κ] [Numbered σ] {shelf : Shelf σ κ α} {key : κ}
    (replaced : ∀ state objects, shelf.objects (shelf.replace state objects) = objects) :
    Ends (shelf.request key step) state fun object after =>
      (shelf.objects after).get? key = some object := by
  refine get.bind ?_
  rintro _ _ ⟨rfl, rfl⟩
  split
  · rename_i object found
    exact .pure found
  · refine any.bind fun value between _ => .modifyGet ?_
    unfold Shelf.keep
    split
    · rename_i object found
      exact found
    · dsimp only
      rw [replaced, Table.get?_insert, if_pos rfl]

end Ends

theorem Ends.run_bind_congr {step : BuildStep σ α} {state : σ} {mid : α → σ → Prop}
    {next other : α → BuildStep σ β} (first : Ends step state mid)
    (second : ∀ a after, mid a after → (next a).run.run after = (other a).run.run after) :
    (step >>= next).run.run state = (step >>= other).run.run state := by
  rw [run_bind, run_bind]
  rcases ran : step.run.run state with ⟨_ | a, after⟩
  · rfl
  · exact second a after (first a after ran)

/-- Two steps that do the same from every state with the invariant. -/
def SameFrom (inv : σ → Prop) (step other : BuildStep σ α) : Prop :=
  ∀ state, inv state → step.run.run state = other.run.run state

theorem SameFrom.refl {inv : σ → Prop} (step : BuildStep σ α) : SameFrom inv step step := fun _ _ => rfl

theorem SameFrom.bind_left {inv : σ → Prop} {step other : BuildStep σ α} (same : SameFrom inv step other)
    (next : α → BuildStep σ β) : SameFrom inv (step >>= next) (other >>= next) := by
  intro state before
  rw [run_bind, run_bind, same state before]

theorem ofChecked_ok_bind (a : α) (next : α → BuildStep σ β) : ofChecked (.ok a) >>= next = next a := rfl

theorem ofChecked_bind_congr {checked : Checked α} {next other : α → BuildStep σ β}
    (same : ∀ a, checked = .ok a → next a = other a) :
    ofChecked checked >>= next = ofChecked checked >>= other := by
  cases checked with
  | error failure => rfl
  | ok a => exact same a rfl

theorem mapM_congr {step other : α → BuildStep σ β} {l : List α} (same : ∀ a ∈ l, step a = other a) :
    l.mapM step = l.mapM other := by
  induction l with
  | nil => rfl
  | cons a rest ih =>
    rw [List.mapM_cons, List.mapM_cons, same a (by simp),
      ih fun b member => same b (List.mem_cons_of_mem a member)]

theorem run_request_congr {κ : Type} [DecidableEq κ] [Numbered σ] {shelf : Shelf σ κ α} (key : κ)
    {step other : BuildStep σ α} {state : σ} (same : step.run.run state = other.run.run state) :
    (shelf.request key step).run.run state = (shelf.request key other).run.run state := by
  refine Ends.get.run_bind_congr ?_
  rintro _ _ ⟨rfl, rfl⟩
  split
  · rfl
  · rw [run_bind, run_bind, same]

theorem keep_of_absent {κ : Type} [DecidableEq κ] [Numbered σ] {shelf : Shelf σ κ α} {key : κ} {state : σ}
    (absent : (shelf.objects state).get? key = none) (value : α) :
    (shelf.keep key value state).2 =
      shelf.replace (Numbered.advance state) ((shelf.objects (Numbered.advance state)).insert key
        { serial := Numbered.nextSerial state, value }) := by
  rw [Shelf.keep, absent]

namespace Keeps

variable {inv : σ → Prop} {step : BuildStep σ α} {next : α → BuildStep σ β} {post mid : α → Prop}
  {last : β → Prop}

theorem mono (keeps : Keeps inv step mid) (weaker : ∀ a, mid a → post a) : Keeps inv step post :=
  fun state before => ⟨(keeps state before).1, fun a done => weaker a ((keeps state before).2 a done)⟩

theorem and {also : σ → Prop} (keeps : Keeps inv step mid) (more : Keeps also step post) :
    Keeps (fun state => inv state ∧ also state) step fun a => mid a ∧ post a := by
  intro state ⟨before, alsoBefore⟩
  obtain ⟨kept, returned⟩ := keeps state before
  obtain ⟨alsoKept, alsoReturned⟩ := more state alsoBefore
  exact ⟨⟨kept, alsoKept⟩, fun a done => ⟨returned a done, alsoReturned a done⟩⟩

theorem pure {a : α} (holds : post a) : Keeps inv (pure a) post := by
  intro state before
  refine ⟨before, fun b done => ?_⟩
  obtain rfl := Except.ok.inj done
  exact holds

theorem throw (failure : Failure) : Keeps inv (throw failure) post :=
  fun _ before => ⟨before, nofun⟩

theorem ofChecked (checked : Checked α) : Keeps inv (.ofChecked checked) fun a => checked = .ok a :=
  fun _ before => ⟨before, fun _ => id⟩

theorem require (found : Option α) (failure : Failure) :
    Keeps inv (found.elim (MonadExcept.throw failure) Pure.pure : BuildStep σ α) fun _ => True := by
  cases found with
  | none => exact .throw failure
  | some a => exact .pure trivial

theorem bind (first : Keeps inv step mid) (second : ∀ a, mid a → Keeps inv (next a) last) :
    Keeps inv (step >>= next) last := by
  intro state before
  obtain ⟨between, returned⟩ := first state before
  rw [run_bind]
  rcases ran : step.run.run state with ⟨_ | a, after⟩
  · rw [ran] at between
    exact ⟨between, nofun⟩
  · rw [ran] at between returned
    exact second a (returned a rfl) after between

theorem of_ends (keeps : Keeps inv step fun _ => True)
    (ends : ∀ state, inv state → Ends step state fun a _ => post a) : Keeps inv step post :=
  fun state before => ⟨(keeps state before).1, fun a done => ends state before a _ (Prod.ext done rfl)⟩

theorem ends (keeps : Keeps inv step post) {state : σ} (before : inv state) :
    Ends step state fun a after => inv after ∧ post a := by
  intro a after ran
  obtain ⟨kept, returned⟩ := keeps state before
  rw [ran] at kept returned
  exact ⟨kept, returned a rfl⟩

theorem sameFrom_bind {other : α → BuildStep σ β} (first : Keeps inv step mid)
    (second : ∀ a, mid a → SameFrom inv (next a) (other a)) :
    SameFrom inv (step >>= next) (step >>= other) := fun _ before =>
  (first.ends before).run_bind_congr fun a after ⟨between, holds⟩ => second a holds after between

theorem map {f : α → β} (keeps : Keeps inv step fun a => last (f a)) : Keeps inv (f <$> step) last := by
  have same : f <$> step = step >>= fun a => Pure.pure (f a) := (bind_pure_comp f step).symm
  rw [same]
  exact keeps.bind fun a holds => .pure holds

theorem get : Keeps inv (get : BuildStep σ σ) inv := by
  intro state before
  refine ⟨before, fun a done => ?_⟩
  obtain rfl := Except.ok.inj done
  exact before

theorem modify {change : σ → σ} (kept : ∀ state, inv state → inv (change state)) :
    Keeps inv (modify change : BuildStep σ PUnit) fun _ => True :=
  fun state before => ⟨kept state before, fun _ _ => trivial⟩

theorem modifyGet {change : σ → α × σ}
    (kept : ∀ state, inv state → inv (change state).2 ∧ post (change state).1) :
    Keeps inv (modifyGet change : BuildStep σ α) post := by
  intro state before
  refine ⟨(kept state before).1, fun a done => ?_⟩
  obtain rfl := Except.ok.inj done
  exact (kept state before).2

theorem tryCatch {handle : Failure → BuildStep σ α} (keeps : Keeps inv step post)
    (handled : ∀ failure, Keeps inv (handle failure) post) :
    Keeps inv (tryCatch step handle) post := by
  intro state before
  obtain ⟨between, returned⟩ := keeps state before
  rw [run_tryCatch]
  rcases ran : step.run.run state with ⟨failure | a, after⟩
  · rw [ran] at between
    exact handled failure after between
  · rw [ran] at between returned
    exact ⟨between, returned⟩

theorem mapM {step : α → BuildStep σ β} {last : α → β → Prop} {l : List α}
    (each : ∀ a ∈ l, Keeps inv (step a) (last a)) : Keeps inv (l.mapM step) (Forall₂ last l) := by
  induction l with
  | nil => exact .pure .nil
  | cons a rest ih =>
    rw [List.mapM_cons]
    refine (each a (by simp)).bind fun b here => ?_
    refine (ih fun b member => each b (List.mem_cons_of_mem a member)).bind fun others there => ?_
    exact .pure (.cons here there)

theorem foldlM {step : β → α → BuildStep σ β} {l : List α} {start : β} (first : last start)
    (each : ∀ b, ∀ a ∈ l, last b → Keeps inv (step b a) last) : Keeps inv (l.foldlM step start) last := by
  induction l generalizing start with
  | nil => exact .pure first
  | cons a rest ih =>
    rw [List.foldlM_cons]
    exact (each start a (by simp) first).bind fun b here =>
      ih here fun b c member => each b c (List.mem_cons_of_mem a member)

theorem forM {step : α → BuildStep σ PUnit} {l : List α}
    (each : ∀ a ∈ l, Keeps inv (step a) fun _ => True) : Keeps inv (l.forM step) fun _ => True := by
  induction l with
  | nil => exact .pure trivial
  | cons a rest ih =>
    exact (each a (by simp)).bind fun _ _ => ih fun b member => each b (List.mem_cons_of_mem a member)

section Request

variable {κ : Type} [DecidableEq κ] [Numbered σ] {shelf : Shelf σ κ α} {key : κ}
  (known : ∀ state, inv state → ∀ object, (shelf.objects state).get? key = some object →
    post object.value)
  (made : Keeps inv step post)
include known made

theorem requestNew
    (kept : ∀ state, inv state → (shelf.objects state).get? key = none → ∀ value, post value →
      inv (shelf.keep key value state).2) :
    Keeps inv (shelf.request key step) fun object => post object.value := by
  refine get.bind fun state before => ?_
  split
  · rename_i object found
    exact .pure (known state before object found)
  · refine made.bind fun value holds => .modifyGet fun state before => ?_
    -- Making the object may have put another on the shelf.
    cases found : (shelf.objects state).get? key with
    | some object =>
      rw [Shelf.keep, found]
      exact ⟨before, known state before object found⟩
    | none =>
      refine ⟨kept state before found value holds, ?_⟩
      rw [Shelf.keep, found]
      exact holds

theorem request
    (kept : ∀ state, inv state → ∀ value, post value →
      let next := Numbered.advance state
      inv (shelf.replace next
        ((shelf.objects next).insert key { serial := Numbered.nextSerial state, value }))) :
    Keeps inv (shelf.request key step) fun object => post object.value := by
  refine requestNew known made fun state before absent value holds => ?_
  rw [keep_of_absent absent]
  exact kept state before value holds

end Request

end Keeps

namespace SameFrom

variable {inv : σ → Prop}

theorem bind {step other : BuildStep σ α} {next follow : α → BuildStep σ β} {mid : α → Prop}
    (same : SameFrom inv step other) (keeps : Keeps inv step mid)
    (second : ∀ a, mid a → SameFrom inv (next a) (follow a)) :
    SameFrom inv (step >>= next) (other >>= follow) := by
  intro state before
  rw [keeps.sameFrom_bind second state before, same.bind_left follow state before]

theorem mapM {step other : α → BuildStep σ β} {last : α → β → Prop} {l : List α}
    (keeps : ∀ a ∈ l, Keeps inv (step a) (last a)) (same : ∀ a ∈ l, SameFrom inv (step a) (other a)) :
    SameFrom inv (l.mapM step) (l.mapM other) := by
  induction l with
  | nil => exact .refl _
  | cons a rest ih =>
    rw [List.mapM_cons, List.mapM_cons]
    refine (same a (by simp)).bind (keeps a (by simp)) fun b _ => SameFrom.bind_left ?_ _
    exact ih (fun c member => keeps c (List.mem_cons_of_mem a member))
      fun c member => same c (List.mem_cons_of_mem a member)

theorem request {κ : Type} [DecidableEq κ] [Numbered σ] {shelf : Shelf σ κ α} (key : κ)
    {step other : BuildStep σ α} (same : SameFrom inv step other) :
    SameFrom inv (shelf.request key step) (shelf.request key other) := fun state before =>
  run_request_congr key (same state before)

end SameFrom

theorem holds_bind {inv : σ → Prop} {step : BuildStep σ α} {next : α → BuildStep σ β} {state : σ}
    (first : inv (step.run.run state).2) (keeps : ∀ a, Keeps inv (next a) fun _ => True) :
    inv ((step >>= next).run.run state).2 := by
  rw [run_bind]
  rcases ran : step.run.run state with ⟨_ | a, between⟩
  · rwa [ran] at first
  · rw [ran] at first
    exact (keeps a between first).1

theorem holds_tryCatch {inv : σ → Prop} {step : BuildStep σ α} {handle : Failure → BuildStep σ α} {state : σ}
    (first : inv (step.run.run state).2) (keeps : ∀ failure, Keeps inv (handle failure) fun _ => True) :
    inv ((tryCatch step handle).run.run state).2 := by
  rw [run_tryCatch]
  rcases ran : step.run.run state with ⟨failure | a, between⟩
  · rw [ran] at first
    exact (keeps failure between first).1
  · rwa [ran] at first

def afterAll (steps : List (BuildStep σ α)) (state : σ) : σ :=
  steps.foldl (fun state step => (step.run.run state).2) state

theorem afterAll_holds {inv : σ → Prop} {steps : List (BuildStep σ α)} {state : σ}
    (keeps : ∀ step ∈ steps, Keeps inv step fun _ => True) (before : inv state) :
    inv (afterAll steps state) := by
  induction steps generalizing state with
  | nil => exact before
  | cons step rest ih =>
    exact ih (fun other member => keeps other (List.mem_cons_of_mem step member))
      (keeps step (by simp) state before).1

theorem afterAll_append_cons (steps : List (BuildStep σ α)) (step : BuildStep σ α)
    (rest : List (BuildStep σ α)) (state : σ) :
    afterAll (steps ++ step :: rest) state = afterAll rest (step.run.run (afterAll steps state)).2 := by
  rw [afterAll, List.foldl_append, List.foldl_cons]
  rfl

def Reaches (step : α → BuildStep σ β) (l : List α) (state : σ) (a : α) (between : σ) : Prop :=
  ∃ done rest results, l = done ++ a :: rest ∧ (done.mapM step).run.run state = (.ok results, between)

namespace Reaches

variable {inv : σ → Prop} {step : α → BuildStep σ β} {l : List α} {a : α} {state between : σ}
  (reaches : Reaches step l state a between) (keeps : ∀ a, Keeps inv (step a) fun _ => True)
include reaches keeps

theorem holds (before : inv state) : inv between := by
  obtain ⟨done, _, _, -, ran⟩ := reaches
  have kept : inv ((done.mapM step).run.run state).2 := (Keeps.mapM (fun a _ => keeps a) state before).1
  rwa [ran] at kept

theorem holds_last (here : inv ((step a).run.run between).2) : inv ((l.mapM step).run.run state).2 := by
  obtain ⟨done, rest, results, rfl, ran⟩ := reaches
  rw [List.mapM_append, run_bind_ok ran, List.mapM_cons]
  refine holds_bind (holds_bind here fun b => ?_) fun _ => .pure trivial
  exact (Keeps.mapM fun a _ => keeps a).bind fun _ _ => .pure trivial

end Reaches

end UefiBuild.BuildStep
