import UefiBuild.Context.Cache
import UefiBuild.Proofs.Agreement
import UefiBuild.Proofs.Shelf

namespace UefiBuild

open BuildStep (Keeps)

namespace ContextKind

def Value : ContextKind → Type
  | platform => PlatformContext
  | module => ModuleContext
  | packages => List (Shared Package)

def shelf : (kind : ContextKind) → Shelf BuildState ContextKey kind.Value
  | platform => BuildState.platformShelf
  | module => BuildState.moduleShelf
  | packages => BuildState.packageShelf

abbrev Object : Type := (kind : ContextKind) × kind.Value

end ContextKind

namespace BuildState

def find? (state : BuildState) (request : ContextKind × ContextKey) : Option (Shared ContextKind.Object) :=
  ((request.1.shelf.objects state).get? request.2).map (Shared.map (Sigma.mk request.1))

theorem find?_congr {state other : BuildState} (same : state.contexts = other.contexts) :
    state.find? = other.find? := by
  funext ⟨kind, key⟩
  cases kind <;> simp only [find?, ContextKind.shelf, platformShelf, moduleShelf, packageShelf, same]

theorem shelf_shownBy (kind : ContextKind) : kind.shelf.ShownBy find? (kind, ·) (Sigma.mk kind) where
  found _ _ := rfl
  objects_replace _ _ := by cases kind <;> rfl
  replaced state key object := by
    refine ⟨?_, by cases kind <;> rfl⟩
    rintro ⟨other, otherKey⟩
    by_cases same : other = kind
    · subst same
      have objects : ∀ objects, other.shelf.objects (other.shelf.replace (Numbered.advance state) objects) =
          objects := by cases other <;> exact fun _ => rfl
      have before : other.shelf.objects (Numbered.advance state) = other.shelf.objects state := by
        cases other <;> rfl
      simp only [find?, objects, before, Table.get?_insert, Prod.mk.injEq, true_and]
      split <;> rfl
    · rw [if_neg fun alike => same (congrArg Prod.fst alike)]
      -- The three shelves keep to fields of their own.
      cases kind <;> cases other <;> try contradiction
      all_goals rfl

theorem find?_of_request {kind : ContextKind} {key : ContextKey} {make : Build kind.Value} {state : BuildState}
    {object : Shared ContextKind.Object}
    (ok : ((kind.shelf.request key make).run.run state).1.map (Shared.map (Sigma.mk kind)) = .ok object) :
    ((kind.shelf.request key make).run.run state).2.find? (kind, key) = some object := by
  obtain ⟨found, ran, rfl⟩ := Checked.map_eq_ok.1 ok
  exact (shelf_shownBy kind).find?_request ran

end BuildState

/-- A step that touches contexts by asking for them only. What it asks for is made by such a step again,
and it may go on where that fails. -/
inductive ContextScript : Type → Type 1
  | apart {α : Type} (step : Build α)
      (same : ∀ state, (step.run.run state).2.contexts = state.contexts)
      (numbered : ∀ state, Numbered.nextSerial state ≤ Numbered.nextSerial (step.run.run state).2) :
      ContextScript α
  | bind {α β : Type} (first : ContextScript α) (next : α → ContextScript β) : ContextScript β
  | tryCatch {α : Type} (first : ContextScript α) (handle : Failure → ContextScript α) : ContextScript α
  | request (kind : ContextKind) (key : ContextKey) (make : ContextScript kind.Value) :
      ContextScript (Shared kind.Value)

namespace ContextScript

structure Exchange where
  request : ContextKind × ContextKey
  made? : Option (Checked ContextKind.Object)
  answer : Checked (Shared ContextKind.Object)
  after : BuildState

def Exchange.Makes (exchange : Exchange) (request : ContextKind × ContextKey) : Prop :=
  exchange.request = request ∧ ∃ object, exchange.made? = some (.ok object)

structure Exchange.Follows (exchange : Exchange) (state : BuildState) : Prop where
  grown : ∀ earlier, Grown BuildState.find? earlier state → Grown BuildState.find? earlier exchange.after
  answered : ∀ object, exchange.answer = .ok object → exchange.after.find? exchange.request = some object
  answer_iff : (∃ object, exchange.answer = .ok object) ↔ ∀ failure, exchange.made? ≠ some (.error failure)
  none_iff : ∀ request, exchange.after.find? request = none ↔
    state.find? request = none ∧ ¬ exchange.Makes request

/-- Exchanges that follow one another, with nothing between them that concerns contexts. -/
inductive Chain : BuildState → List Exchange → BuildState → Prop
  | apart {state last : BuildState} (same : last.find? = state.find?)
      (numbered : Numbered.nextSerial state ≤ Numbered.nextSerial last) : Chain state [] last
  | next {state last : BuildState} {exchange : Exchange} {rest : List Exchange}
      (follows : exchange.Follows state) (more : Chain exchange.after rest last) :
      Chain state (exchange :: rest) last

namespace Chain

variable {state between last : BuildState} {log more : List Exchange} {exchange : Exchange}

theorem append (first : Chain state log between) (second : Chain between more last) :
    Chain state (log ++ more) last := by
  induction first with
  | apart same numbered =>
    cases second with
    | apart again further => exact .apart (again.trans same) (Nat.le_trans numbered further)
    | next follows more =>
      refine .next ⟨fun earlier grown => ?_, follows.answered, follows.answer_iff,
        fun request => ?_⟩ more
      · exact follows.grown earlier (grown.apart same numbered)
      · rw [follows.none_iff, same]
  | next follows _ ih => exact .next follows (ih second)

theorem grown (chain : Chain state log last) {earlier : BuildState}
    (before : Grown BuildState.find? earlier state) : Grown BuildState.find? earlier last := by
  induction chain with
  | apart same numbered => exact before.apart same numbered
  | next follows _ ih => exact ih (follows.grown earlier before)

theorem none_iff (chain : Chain state log last) (request : ContextKind × ContextKey) :
    last.find? request = none ↔
      state.find? request = none ∧ ∀ exchange ∈ log, ¬ exchange.Makes request := by
  induction chain with
  | apart same numbered => simp [same]
  | next follows _ ih => rw [ih, follows.none_iff, List.forall_mem_cons, and_assoc]

theorem exists_follows (chain : Chain state log last) (member : exchange ∈ log) :
    ∃ before, exchange.Follows before := by
  induction chain with
  | apart => cases member
  | @next state _ _ _ follows _ ih =>
    cases member with
    | head => exact ⟨state, follows⟩
    | tail _ later => exact ih later

theorem cut {done rest : List Exchange} (chain : Chain state (done ++ exchange :: rest) last) :
    Chain state (done ++ [exchange]) exchange.after := by
  induction done generalizing state with
  | nil =>
    cases chain with
    | next follows more => exact .next follows (.apart rfl (Nat.le_refl _))
  | cons first done ih =>
    cases chain with
    | next follows more => exact .next follows (ih more)

/-- Nothing that is kept after one exchange is lost after another, nor in the end. -/
theorem ordered (chain : Chain state log last) (start : Grown BuildState.find? state state) :
    log.Pairwise (fun exchange later => Grown BuildState.find? exchange.after later.after) ∧
      ∀ exchange ∈ log, Grown BuildState.find? exchange.after last := by
  induction chain with
  | apart => exact ⟨.nil, fun _ member => by cases member⟩
  | @next state last exchange rest follows more ih =>
    have here := (follows.grown state start).refl
    obtain ⟨later, toLast⟩ := ih here
    refine ⟨List.pairwise_cons.2 ⟨fun other member => ?_, later⟩, fun other member => ?_⟩
    · obtain ⟨done, others, rfl⟩ := List.append_of_mem member
      exact more.cut.grown here
    · rcases List.mem_cons.1 member with rfl | member
      · exact more.grown here
      · exact toLast other member

theorem find?_answer (chain : Chain state log last) (start : Grown BuildState.find? state state)
    (member : exchange ∈ log) {object : Shared ContextKind.Object} (ok : exchange.answer = .ok object) :
    last.find? exchange.request = some object := by
  obtain ⟨_, follows⟩ := chain.exists_follows member
  exact ((chain.ordered start).2 exchange member).kept _ object (follows.answered object ok)

end Chain

def step : {α : Type} → ContextScript α → Build α
  | _, apart step _ _ => step
  | _, bind first next => first.step >>= fun a => (next a).step
  | _, tryCatch first handle => MonadExcept.tryCatch first.step fun failure => (handle failure).step
  | _, request kind key make => kind.shelf.request key make.step

def log : {α : Type} → ContextScript α → BuildState → List Exchange
  | _, apart _ _ _, _ => []
  | _, bind first next, state =>
    first.log state ++
      match first.step.run.run state with
      | (.ok a, between) => (next a).log between
      | (.error _, _) => []
  | _, tryCatch first handle, state =>
    first.log state ++
      match first.step.run.run state with
      | (.ok _, _) => []
      | (.error failure, between) => (handle failure).log between
  | _, request kind key make, state =>
    let done := (kind.shelf.request key make.step).run.run state
    let exchange (made? : Option (Checked ContextKind.Object)) : Exchange :=
      { request := (kind, key), made?, answer := done.1.map (Shared.map (Sigma.mk kind)), after := done.2 }
    match (kind.shelf.objects state).get? key with
    | some _ => [exchange none]
    | none => make.log state ++ [exchange (some ((make.step.run.run state).1.map (Sigma.mk kind)))]

theorem chain_request {kind : ContextKind} {key : ContextKey} {make : ContextScript kind.Value}
    (made : ∀ state, Chain state (make.log state) (make.step.run.run state).2) (state : BuildState) :
    Chain state ((request kind key make).log state) ((request kind key make).step.run.run state).2 := by
  have shown := BuildState.shelf_shownBy kind
  rw [log, step]
  cases found : (kind.shelf.objects state).get? key with
  | some object =>
    have same : ((kind.shelf.request key make.step).run.run state).2 = state := by
      rw [BuildStep.run_request, found]
    refine .next ⟨fun earlier grown => ?_, fun _ => BuildState.find?_of_request, ?_, fun request => ?_⟩
      (.apart rfl (Nat.le_refl _))
    · rwa [same]
    · simp [BuildStep.run_request, found, Except.map]
    · simp [same, Exchange.Makes]
  | none =>
    -- What is made may ask for contexts itself, which comes to its end before this exchange does.
    refine (made state).append (.next ⟨fun earlier grown => ?_, fun _ => BuildState.find?_of_request, ?_,
      fun request => ?_⟩ (.apart rfl (Nat.le_refl _)))
    · rw [BuildStep.run_request_of_absent found]
      exact BuildStep.holds_bind grown fun value =>
        .modifyGet fun _ grown => ⟨shown.grown_keep grown key value, trivial⟩
    · rw [BuildStep.run_request, found]
      dsimp only
      rcases make.step.run.run state with ⟨failure | value, between⟩ <;> simp [Except.map]
    · rw [Exchange.Makes, BuildStep.run_request, found]
      dsimp only
      rcases make.step.run.run state with ⟨failure | value, between⟩
      · simp [Except.map]
      · simp [Except.map, shown.find?_keep_eq_none key value request]

theorem chain_log {α : Type} (script : ContextScript α) (state : BuildState) :
    Chain state (script.log state) (script.step.run.run state).2 := by
  induction script generalizing state with
  | apart step same numbered => exact .apart (BuildState.find?_congr (same state)) (numbered state)
  | bind first next ihFirst ihNext =>
    rw [log, step, BuildStep.run_bind]
    refine (ihFirst state).append ?_
    rcases first.step.run.run state with ⟨failure | a, between⟩
    · exact .apart rfl (Nat.le_refl _)
    · exact ihNext a between
  | tryCatch first handle ihFirst ihHandle =>
    rw [log, step, BuildStep.run_tryCatch]
    refine (ihFirst state).append ?_
    rcases first.step.run.run state with ⟨failure | a, between⟩
    · exact ihHandle failure between
    · exact .apart rfl (Nat.le_refl _)
  | request kind key make ih => exact chain_request ih state

/-- Whatever is asked for, and whatever is asked for while it is made: equal requests alone are answered
with the same object, which is the entry from then on and stays it. A request is answered unless what is
made for it fails, and has no entry as long as all that has been made for it has failed. -/
theorem contexts_shared {α : Type} (script : ContextScript α) (state : BuildState) :
    let start : BuildState := { state with contexts := {} }
    let log := script.log start
    let last := (script.step.run.run start).2
    (∀ exchange ∈ log, ∀ other ∈ log, ∀ object another, exchange.answer = .ok object →
      other.answer = .ok another →
        (object.serial = another.serial ↔ exchange.request = other.request) ∧
        (exchange.request = other.request → object = another)) ∧
    (∀ exchange ∈ log,
      (∀ object, exchange.answer = .ok object → exchange.after.find? exchange.request = some object) ∧
      ((∃ object, exchange.answer = .ok object) ↔ ∀ failure, exchange.made? ≠ some (.error failure))) ∧
    log.Pairwise (fun exchange later => ∀ request object,
      exchange.after.find? request = some object → later.after.find? request = some object) ∧
    (∀ exchange ∈ log, ∀ request object,
      exchange.after.find? request = some object → last.find? request = some object) ∧
    (∀ done exchange rest, log = done ++ exchange :: rest → ∀ request,
      (exchange.after.find? request = none ↔ ∀ earlier ∈ done ++ [exchange], ¬ earlier.Makes request)) ∧
    ∀ request, last.find? request = none ↔ ∀ exchange ∈ log, ¬ exchange.Makes request := by
  intro start log last
  have chain : Chain start log last := chain_log script start
  have empty : ∀ request, start.find? request = none := by
    rintro ⟨kind, key⟩
    cases kind <;> rfl
  have first : Grown BuildState.find? start start := Grown.of_empty empty
  obtain ⟨ordered, toLast⟩ := chain.ordered first
  refine ⟨?_, ?_, ?_, fun exchange member => (toLast exchange member).kept, ?_, fun request => ?_⟩
  · intro exchange member other otherMember object another ok otherOk
    have here := chain.find?_answer first member ok
    have there := chain.find?_answer first otherMember otherOk
    have same : exchange.request = other.request → object = another := fun alike =>
      Option.some.inj ((alike ▸ here).symm.trans there)
    have told := (chain.grown first).distinct _ object _ another here there
    exact ⟨⟨told, fun alike => congrArg Shared.serial (same alike)⟩, same⟩
  · intro exchange member
    obtain ⟨_, follows⟩ := chain.exists_follows member
    exact ⟨follows.answered, follows.answer_iff⟩
  · exact ordered.imp fun grown => grown.kept
  · intro done exchange rest cut request
    have upTo : Chain start (done ++ exchange :: rest) last := cut ▸ chain
    rw [upTo.cut.none_iff, and_iff_right (empty request)]
  · rw [chain.none_iff, and_iff_right (empty request)]

end ContextScript

end UefiBuild
