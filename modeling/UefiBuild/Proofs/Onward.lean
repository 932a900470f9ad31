import UefiBuild.Proofs.Step

namespace UefiBuild.BuildStep

open List (Forall₂)

/-- A relation between states and later ones. It holds between a state and itself if the state is later than
any at all. -/
structure Onward {σ : Type} (rel : σ → σ → Prop) : Prop where
  self : ∀ {earlier state}, rel earlier state → rel state state
  trans : ∀ {earlier state later}, rel earlier state → rel state later → rel earlier later

/-- A step leads to a later state, and to one as `post` says where it succeeds. -/
structure Leads {σ α : Type} (rel : σ → σ → Prop) (step : BuildStep σ α) (state : σ)
    (post : α → σ → Prop) : Prop where
  onward : rel state (step.run.run state).2
  ends : Ends step state post

namespace Leads

variable {σ α β : Type} {rel : σ → σ → Prop} {step : BuildStep σ α} {next : α → BuildStep σ β} {state : σ}
  {post mid : α → σ → Prop} {last : β → σ → Prop}

theorem mono (leads : Leads rel step state mid) (weaker : ∀ a after, mid a after → post a after) :
    Leads rel step state post := ⟨leads.onward, leads.ends.mono weaker⟩

theorem ends_onward (leads : Leads rel step state post) :
    Ends step state fun a after => rel state after ∧ post a after := by
  intro a after ran
  have there := leads.onward
  rw [ran] at there
  exact ⟨there, leads.ends a after ran⟩

theorem pure {a : α} (here : rel state state) (holds : post a state) : Leads rel (pure a) state post :=
  ⟨here, .pure holds⟩

theorem throw (failure : Failure) (here : rel state state) : Leads rel (throw failure) state post :=
  ⟨here, .throw failure⟩

theorem ofChecked {checked : Checked α} (here : rel state state)
    (holds : ∀ a, checked = .ok a → post a state) : Leads rel (.ofChecked checked) state post :=
  ⟨here, .ofChecked holds⟩

theorem get (here : rel state state) :
    Leads rel (get : BuildStep σ σ) state fun a after => a = state ∧ after = state := ⟨here, .get⟩

variable (order : Onward rel)
include order

theorem keeps {holds : α → Prop}
    (leads : ∀ state, rel state state → Leads rel step state fun a _ => holds a) (earlier : σ) :
    Keeps (rel earlier) step holds := by
  intro state before
  have leads := leads state (order.self before)
  exact ⟨order.trans before leads.onward, fun a done => leads.ends a _ (Prod.ext done rfl)⟩

theorem bind (first : Leads rel step state mid)
    (second : ∀ a after, rel state after → mid a after → Leads rel (next a) after last) :
    Leads rel (step >>= next) state last := by
  refine ⟨?_, first.ends_onward.bind fun a after ⟨there, holds⟩ => (second a after there holds).ends⟩
  rw [run_bind]
  have there := first.onward
  rcases ran : step.run.run state with ⟨_ | a, after⟩
  · rwa [ran] at there
  · rw [ran] at there
    exact order.trans there (second a after there (first.ends a after ran)).onward

theorem map {f : α → β} (leads : Leads rel step state fun a after => last (f a) after) :
    Leads rel (f <$> step) state last := by
  have same : f <$> step = step >>= fun a => Pure.pure (f a) := (bind_pure_comp f step).symm
  rw [same]
  exact leads.bind order fun a after there holds => .pure (order.self there) holds

theorem foldlM {step : β → α → BuildStep σ β} {l : List α} {start : β} (here : rel state state)
    (each : ∀ b, ∀ a ∈ l, ∀ after, rel state after → Leads rel (step b a) after fun _ _ => True) :
    Leads rel (l.foldlM step start) state fun _ _ => True := by
  induction l generalizing start state with
  | nil => exact .pure here trivial
  | cons a rest ih =>
    rw [List.foldlM_cons]
    refine (each start a (by simp) state here).bind order fun b after there _ => ih (order.self there) ?_
    exact fun b c member later more => each b c (List.mem_cons_of_mem a member) later (order.trans there more)

theorem mapM {step : α → BuildStep σ β} {last : α → β → σ → Prop} {l : List α} (here : rel state state)
    (each : ∀ a ∈ l, ∀ after, rel state after → Leads rel (step a) after (last a))
    (stays : ∀ a b after later, rel after later → last a b after → last a b later) :
    Leads rel (l.mapM step) state fun results after => Forall₂ (last · · after) l results := by
  induction l generalizing state with
  | nil => exact .pure here .nil
  | cons a rest ih =>
    rw [List.mapM_cons]
    refine (each a (by simp) state here).bind order fun b after there first => ?_
    refine (ih (order.self there) fun c member later more =>
      each c (List.mem_cons_of_mem a member) later (order.trans there more)).bind order ?_
    intro others later more others'
    exact .pure (order.self more) (.cons (stays a b after later more first) others')

theorem request {κ : Type} [DecidableEq κ] [Numbered σ] {shelf : Shelf σ κ α} {key : κ}
    (here : rel state state) (made : Leads rel step state mid)
    (kept : ∀ value after, rel state after → mid value after → (shelf.objects after).get? key = none →
      rel after (shelf.keep key value after).2) :
    Leads rel (shelf.request key step) state fun _ _ => True := by
  refine ⟨?_, .any⟩
  rw [run_request]
  cases (shelf.objects state).get? key with
  | some object => exact here
  | none =>
    have there := made.onward
    rcases ran : step.run.run state with ⟨_ | value, after⟩
    · rwa [ran] at there
    · rw [ran] at there
      refine order.trans there ?_
      dsimp only
      cases found : (shelf.objects after).get? key with
      | some object =>
        rw [Shelf.keep, found]
        exact order.self there
      | none => exact kept value after there (made.ends value after ran) found

end Leads

end UefiBuild.BuildStep
