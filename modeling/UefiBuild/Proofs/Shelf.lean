import UefiBuild.Proofs.Step

namespace UefiBuild

open BuildStep (Ends Keeps)

def Shared.map {α β : Type} (f : α → β) (object : Shared α) : Shared β := ⟨object.serial, f object.value⟩

variable {σ κ ρ α β δ : Type} [Numbered σ]

/-- A state keeps all that an earlier one kept, and each object by a serial of its own. -/
structure Grown (find? : σ → ρ → Option (Shared δ)) (earlier state : σ) : Prop where
  kept : ∀ request object, find? earlier request = some object → find? state request = some object
  below : ∀ request object, find? state request = some object → object.serial < Numbered.nextSerial state
  distinct : ∀ request object other another, find? state request = some object →
    find? state other = some another → object.serial = another.serial → request = other

namespace Grown

variable {find? : σ → ρ → Option (Shared δ)} {earlier state next : σ}

theorem of_empty (empty : ∀ request, find? state request = none) : Grown find? state state :=
  ⟨fun _ _ => id, fun request _ found => (nomatch (empty request).symm.trans found),
    fun request _ _ _ found => (nomatch (empty request).symm.trans found)⟩

theorem refl (grown : Grown find? earlier state) : Grown find? state state :=
  ⟨fun _ _ => id, grown.below, grown.distinct⟩

theorem trans (grown : Grown find? earlier state) (more : Grown find? state next) :
    Grown find? earlier next :=
  ⟨fun request object found => more.kept request object (grown.kept request object found), more.below,
    more.distinct⟩

theorem apart (grown : Grown find? earlier state) (same : find? next = find? state)
    (numbered : Numbered.nextSerial state ≤ Numbered.nextSerial next) : Grown find? earlier next :=
  ⟨same ▸ grown.kept, fun request object found =>
    Nat.lt_of_lt_of_le (grown.below request object (same ▸ found)) numbered, same ▸ grown.distinct⟩

theorem insert [DecidableEq ρ] (grown : Grown find? earlier state) {request : ρ} {value : δ}
    (absent : find? state request = none)
    (found : ∀ other, find? next other =
      if other = request then some ⟨Numbered.nextSerial state, value⟩ else find? state other)
    (numbered : Numbered.nextSerial next = Numbered.nextSerial state + 1) : Grown find? earlier next := by
  have cases : ∀ other object, find? next other = some object →
      (other = request ∧ object.serial = Numbered.nextSerial state) ∨ find? state other = some object := by
    intro other object there
    rw [found] at there
    split at there
    · rename_i same
      obtain rfl := Option.some.inj there
      exact .inl ⟨same, rfl⟩
    · exact .inr there
  refine ⟨fun other object there => ?_, fun other object there => ?_, ?_⟩
  · have kept := grown.kept other object there
    rw [found, if_neg, kept]
    rintro rfl
    cases absent.symm.trans kept
  · rcases cases other object there with ⟨-, serial⟩ | old
    · omega
    · have below := grown.below other object old
      omega
  · intro one object other another here there same
    rcases cases one object here with ⟨rfl, serial⟩ | old
    · rcases cases other another there with ⟨rfl, -⟩ | old
      · rfl
      · have below := grown.below other another old
        omega
    · rcases cases other another there with ⟨-, serial⟩ | otherOld
      · have below := grown.below one object old
        omega
      · exact grown.distinct one object other another old otherOld same

end Grown

namespace Shelf

variable [DecidableEq κ] [DecidableEq ρ] {shelf : Shelf σ κ α} {find? : σ → ρ → Option (Shared δ)}
  {name : κ → ρ} {wrap : α → δ}

/-- The objects of a shelf are found under names of their own, and what is put there changes no others. -/
structure ShownBy (shelf : Shelf σ κ α) (find? : σ → ρ → Option (Shared δ)) (name : κ → ρ)
    (wrap : α → δ) : Prop where
  found : ∀ state key, find? state (name key) = ((shelf.objects state).get? key).map (Shared.map wrap)
  objects_replace : ∀ state objects, shelf.objects (shelf.replace state objects) = objects
  replaced : ∀ state key object,
    let next := Numbered.advance state
    (∀ other, find? (shelf.replace next ((shelf.objects next).insert key object)) other =
      if other = name key then some (object.map wrap) else find? state other) ∧
    Numbered.nextSerial (shelf.replace next ((shelf.objects next).insert key object)) =
      Numbered.nextSerial state + 1

variable (shown : shelf.ShownBy find? name wrap) {earlier state : σ} {key : κ}
include shown

theorem ShownBy.grown_keep (grown : Grown find? earlier state) (key : κ) (value : α) :
    Grown find? earlier (shelf.keep key value state).2 := by
  cases found : (shelf.objects state).get? key with
  | some object =>
    rw [Shelf.keep, found]
    exact grown
  | none =>
    rw [BuildStep.keep_of_absent found]
    obtain ⟨objects, numbered⟩ := shown.replaced state key { serial := Numbered.nextSerial state, value }
    exact grown.insert (by rw [shown.found, found]; rfl) objects numbered

theorem ShownBy.find?_keep_eq_none (key : κ) (value : α) (request : ρ) :
    find? (shelf.keep key value state).2 request = none ↔
      find? state request = none ∧ name key ≠ request := by
  cases found : (shelf.objects state).get? key with
  | some object =>
    rw [Shelf.keep, found, iff_self_and]
    rintro absent rfl
    rw [shown.found, found] at absent
    cases absent
  | none =>
    rw [BuildStep.keep_of_absent found, (shown.replaced state key _).1]
    by_cases same : request = name key
    · simp [same]
    · simp [same, Ne.symm same]

theorem ShownBy.grown_request {make : BuildStep σ α}
    (made : Keeps (Grown find? earlier) make fun _ => True) :
    Keeps (Grown find? earlier) (shelf.request key make) fun _ => True :=
  .requestNew (fun _ _ _ _ => trivial) made fun _ grown _ value _ => shown.grown_keep grown key value

theorem ShownBy.find?_request {make : BuildStep σ α} {object : Shared α}
    (ok : ((shelf.request key make).run.run state).1 = .ok object) :
    find? ((shelf.request key make).run.run state).2 (name key) = some (object.map wrap) := by
  have ends : Ends (shelf.request key make) state fun object after =>
      (shelf.objects after).get? key = some object := Ends.request shown.objects_replace
  rw [shown.found, ends object _ (Prod.ext ok rfl)]
  rfl

end Shelf

end UefiBuild
