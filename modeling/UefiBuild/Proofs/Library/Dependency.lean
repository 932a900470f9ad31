import Mathlib.Data.Fintype.EquivFin
import Mathlib.Data.Fintype.Sets
import Mathlib.Logic.Relation
import UefiBuild.Library.Order

namespace UefiBuild

open Relation

section Order

variable {α : Type} {l : List α} {a b c : α}

def Before (l : List α) (a b : α) : Prop := [a, b].Sublist l

theorem Before.left_mem (before : Before l a b) : a ∈ l := before.subset (by simp)

theorem Before.right_mem (before : Before l a b) : b ∈ l := before.subset (by simp)

theorem Before.ne (before : Before l a b) (distinct : l.Nodup) : a ≠ b := by
  have pair := distinct.sublist before
  simpa using pair

theorem Before.append (before : Before l a b) (rest : List α) : Before (l ++ rest) a b :=
  before.trans (List.sublist_append_left l rest)

theorem before_last (member : a ∈ l) (b : α) : Before (l ++ [b]) a b :=
  (List.singleton_sublist.2 member).append (List.Sublist.refl [b])

theorem Before.reverse (before : Before l a b) : Before l.reverse b a := List.Sublist.reverse before

theorem Before.trans (first : Before l a b) (second : Before l b c) (distinct : l.Nodup) :
    Before l a c := by
  induction l with
  | nil => cases first
  | cons x rest ih =>
    have ⟨absent, others⟩ := List.nodup_cons.1 distinct
    cases first with
    | cons _ later =>
      cases second with
      | cons _ further => exact (ih later further others).cons x
      | cons_cons _ _ => exact absurd (Before.right_mem later) absent
    | cons_cons _ later =>
      have member : c ∈ rest := by
        cases second with
        | cons _ further => exact Before.right_mem further
        | cons_cons _ further => exact List.singleton_sublist.1 further
      exact (List.singleton_sublist.2 member).cons_cons _

theorem before_of_transGen {R : α → α → Prop} (distinct : l.Nodup)
    (ordered : ∀ a b, R a b → a ∈ l → Before l b a) (chain : TransGen R a b) (member : a ∈ l) :
    Before l b a := by
  induction chain with
  | single use => exact ordered _ _ use member
  | tail _ use ih => exact (ordered _ _ use ih.left_mem).trans ih distinct

end Order

/-- Within a finite set in which each node has a successor, every node leads to a cycle. -/
theorem exists_cycle {α : Type} [DecidableEq α] {R : α → α → Prop} {P : α → Prop} (bound : List α)
    (bounded : ∀ a, P a → a ∈ bound) (next : ∀ a, P a → ∃ b, R a b ∧ P b) {a : α} (start : P a) :
    ∃ c, ReflTransGen R a c ∧ TransGen R c c := by
  by_contra acyclic
  have irreflexive : ∀ c, ReflTransGen R a c → ¬ TransGen R c c :=
    fun c reached cycle => acyclic ⟨c, reached, cycle⟩
  -- Without a cycle, the successors of the finitely many reachable nodes are well-founded.
  let Reached := { b // ReflTransGen R a b ∧ P b }
  have finite : Finite Reached :=
    Finite.of_injective (β := { b // b ∈ bound }) (fun b => ⟨b.1, bounded b.1 b.2.2⟩)
      fun b c same => Subtype.ext (Subtype.mk.inj same)
  let After (b c : Reached) : Prop := TransGen R c.1 b.1
  have : IsTrans Reached After := ⟨fun _ _ _ first second => second.trans first⟩
  have : Std.Irrefl After := ⟨fun b => irreflexive b.1 b.2.1⟩
  have wellFounded : WellFounded After := Finite.wellFounded_of_trans_of_irrefl After
  have impossible : ∀ b : Reached, False := fun b => by
    induction b using wellFounded.induction with
    | _ b ih =>
      obtain ⟨c, use, inside⟩ := next b.1 b.2.2
      exact ih ⟨c, b.2.1.tail use, inside⟩ (.single use)
  exact impossible ⟨a, .refl, start⟩

namespace LinkGraph

variable {ν : Type} {graph : LinkGraph ν} {a b : ν}

def ConsumedBy (graph : LinkGraph ν) (library consumer : ν) : Prop :=
  (library, consumer) ∈ graph.uses

/-- Directly or through other libraries. -/
def DependsOn (graph : LinkGraph ν) (consumer library : ν) : Prop :=
  TransGen graph.ConsumedBy library consumer

def ConstructorUse (graph : LinkGraph ν) (library consumer : ν) : Prop :=
  graph.ConsumedBy library consumer ∧ library ∈ graph.constructing ∧ consumer ∈ graph.constructing

/-- A node on a cycle, or one that a node on a cycle depends on. It cannot come free as long as
every use is kept. -/
def Blocked (graph : LinkGraph ν) (a : ν) : Prop :=
  ∃ c, ReflTransGen graph.ConsumedBy a c ∧ TransGen graph.ConsumedBy c c

theorem Blocked.library (blocked : graph.Blocked b) (use : graph.ConsumedBy a b) :
    graph.Blocked a := by
  obtain ⟨c, chain, cycle⟩ := blocked
  exact ⟨c, chain.head use, cycle⟩

theorem Blocked.consumer (blocked : graph.Blocked a) :
    ∃ b, graph.ConsumedBy a b ∧ graph.Blocked b := by
  obtain ⟨c, chain, cycle⟩ := blocked
  rcases chain.cases_head with rfl | ⟨b, use, rest⟩
  · obtain ⟨b, use, rest⟩ := TransGen.head'_iff.1 cycle
    exact ⟨b, use, a, rest, cycle⟩
  · exact ⟨b, use, c, rest, cycle⟩

/-- A use that a sort may give up: the library has a constructor, and its consumer, which has none,
is held back by a cycle. -/
structure Expendable (graph : LinkGraph ν) (library consumer : ν) : Prop where
  consumed : graph.ConsumedBy library consumer
  constructing : library ∈ graph.constructing
  plain : consumer ∉ graph.constructing
  blocked : graph.Blocked consumer

theorem not_blocked_of_dependsOn (depends : graph.DependsOn b a) (clear : ¬ graph.Blocked a) :
    ¬ graph.Blocked b := by
  induction depends with
  | single use => exact fun blocked => clear (blocked.library use)
  | tail _ use ih => exact fun blocked => ih (blocked.library use)

theorem two_le_constructing (left : a ∈ graph.constructing) (right : b ∈ graph.constructing)
    (distinct : a ≠ b) : 2 ≤ graph.constructing.length := by
  have pair : [a, b].Nodup := by simpa using distinct
  have subset : [a, b] ⊆ graph.constructing := by
    intro c member
    rcases List.mem_pair.1 member with rfl | rfl <;> assumption
  exact (pair.subperm subset).length_le

variable [DecidableEq ν]

theorem mem_looseUses :
    (a, b) ∈ graph.looseUses ↔
      (a ∈ graph.nodes ∧ a ∈ graph.constructing) ∧ b ∈ graph.nodes ∧ b ∉ graph.constructing := by
  simp [looseUses, constructs]

end LinkGraph

end UefiBuild
