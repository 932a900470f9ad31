import UefiBuild.Module.Basic

namespace UefiBuild

class Numbered (σ : Type) where
  nextSerial : σ → Nat
  advance : σ → σ

/-- A step of the build. What it has put into the state stays there even if it fails. -/
abbrev BuildStep (σ α : Type) : Type := ExceptT Failure (StateM σ) α

def BuildStep.ofChecked {σ α : Type} (checked : Checked α) : BuildStep σ α := ExceptT.mk (pure checked)

/-- Where a state keeps the objects of one kind, by the key they were asked for with. -/
structure Shelf (σ κ α : Type) where
  objects : σ → Table κ (Shared α)
  replace : σ → Table κ (Shared α) → σ

namespace Shelf

variable {σ κ α : Type} [DecidableEq κ] [Numbered σ]

/-- Puts an object on the shelf, unless another has taken its place by now. -/
def keep (shelf : Shelf σ κ α) (key : κ) (value : α) (state : σ) : Shared α × σ :=
  match (shelf.objects state).get? key with
  | some known => (known, state)
  | none =>
    let object := { serial := Numbered.nextSerial state, value }
    let state := Numbered.advance state
    (object, shelf.replace state ((shelf.objects state).insert key object))

/-- The object kept for a key. It is made if there is none, which can ask for others on the way. -/
def request (shelf : Shelf σ κ α) (key : κ) (make : BuildStep σ α) : BuildStep σ (Shared α) := do
  match (shelf.objects (← get)).get? key with
  | some known => return known
  | none =>
    let value ← make
    modifyGet (shelf.keep key value)

end Shelf

end UefiBuild
