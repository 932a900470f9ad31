import UefiBuild.Proofs.Library.ConstructorOrder

namespace UefiBuild.LinkGraph

open Relation

variable {ν : Type} {graph : LinkGraph ν} {a b : ν}

def Acyclic (graph : LinkGraph ν) : Prop := ∀ a, ¬ graph.DependsOn a a

theorem acyclic_of_rank (rank : ν → Nat) (falls : ∀ use ∈ graph.uses, rank use.2 < rank use.1) :
    graph.Acyclic := by
  intro a depends
  have falling : ∀ b, graph.DependsOn b a → rank b < rank a := by
    intro b chain
    induction chain with
    | single use => exact falls _ use
    | tail _ use ih => exact (falls _ use).trans ih
  exact lt_irrefl _ (falling a depends)

theorem Acyclic.not_blocked (acyclic : graph.Acyclic) (a : ν) : ¬ graph.Blocked a := by
  rintro ⟨c, _, cycle⟩
  exact acyclic c cycle

theorem Acyclic.no_constructor_cycle (acyclic : graph.Acyclic) (a : ν) :
    ¬ TransGen graph.ConstructorUse a a :=
  fun cycle => acyclic a (TransGen.mono (fun _ _ => And.left) _ _ cycle)

variable [DecidableEq ν]

theorem Acyclic.sorted_of_waiting_eq_nil (acyclic : graph.Acyclic) {given : List (ν × ν)} {s : Sorting ν}
    (sound : graph.Sound given s) (empty : s.waiting = []) (node : a ∈ graph.nodes) : a ∈ s.sorted :=
  sound.sorted_of_not_blocked empty node (acyclic.not_blocked a)

theorem Acyclic.given_eq_nil (acyclic : graph.Acyclic) {given : List (ν × ν)} {last : Sorting ν}
    (runs : graph.Runs graph.start given last) : given = [] := by
  rw [List.eq_nil_iff_forall_not_mem]
  rintro ⟨library, consumer⟩ member
  have expendable := runs.expendable (fun _ => id) (sound_start graph given) member
  exact acyclic.not_blocked consumer expendable.blocked

theorem Acyclic.exists_sort (acyclic : graph.Acyclic) : ∃ order, graph.sort = .ok order := by
  obtain ⟨-, -, cycle | sorted⟩ := sort_error_iff_constructor_cycle graph
  · obtain ⟨a, cycle⟩ := cycle
    exact absurd cycle (acyclic.no_constructor_cycle a)
  · exact sorted

theorem Acyclic.mem_sorted (acyclic : graph.Acyclic) (node : a ∈ graph.nodes) : a ∈ graph.sorting.sorted :=
  acyclic.sorted_of_waiting_eq_nil (sound_sorting graph) (runs_sorting graph).stuck.1 node

theorem Acyclic.before_sorted (acyclic : graph.Acyclic) (use : graph.ConsumedBy a b) :
    Before graph.sorting.sorted b a := by
  have kept := kept_of_not_blocked use (acyclic.not_blocked b)
  have sorted := acyclic.mem_sorted (graph.mem_of_use _ use).1
  exact before_of_precedes (precedes_of_kept (.single kept)) sorted

theorem Acyclic.before_constructorOrder (acyclic : graph.Acyclic) {order : List ν}
    (ok : graph.constructorOrder = .ok order) (use : graph.ConsumedBy a b) : Before order a b := by
  have before := (acyclic.before_sorted use).append (graph.nodes.filter (· ∉ graph.sorting.sorted))
  rw [← (sort_eq_ok_iff.1 (constructorOrder_eq_ok ok)).2] at before
  simpa using before.reverse

/-- Libraries that do not depend on each other in a cycle are all constructed before their consumers,
whether these have constructors or not. No use is given up for it. -/
theorem constructorOrder_topological (acyclic : graph.Acyclic) :
    (graph.Runs graph.start [] graph.sorting ∧
      ∀ given last, graph.Runs graph.start given last → given = []) ∧
    ∃ order, graph.constructorOrder = .ok order ∧ order.Nodup ∧ (∀ a, a ∈ order ↔ a ∈ graph.nodes) ∧
      ∀ library consumer, graph.ConsumedBy library consumer → Before order library consumer := by
  have nothing : graph.givenUp = [] := acyclic.given_eq_nil (runs_sorting graph)
  obtain ⟨sorted, success⟩ := acyclic.exists_sort
  have ok : graph.constructorOrder = .ok sorted.reverse := by
    rw [constructorOrder, success, Except.map]
  obtain ⟨distinct, complete⟩ := perm_of_sort_eq_ok success
  refine ⟨⟨nothing ▸ runs_sorting graph, fun _ _ => acyclic.given_eq_nil⟩, sorted.reverse, ok,
    List.nodup_reverse.2 distinct, fun a => by rw [List.mem_reverse, complete a], ?_⟩
  exact fun _ _ => acyclic.before_constructorOrder ok

/-- A library 3 is used along two ways, which meet in 0. Only the ends have constructors. -/
def diamond : LinkGraph Nat where
  nodes := [0, 1, 2, 3]
  uses := [(1, 0), (2, 0), (3, 1), (3, 2)]
  constructing := [0, 3]

theorem constructorOrder_topological_diamond :
    diamond.Acyclic ∧ diamond.constructorOrder = .ok [3, 2, 1, 0] ∧ Before [3, 2, 1, 0] 2 0 := by
  have acyclic : diamond.Acyclic := acyclic_of_rank id (by decide)
  have use : diamond.ConsumedBy 2 0 := by simp [ConsumedBy, diamond]
  obtain ⟨-, order, ok, -, -, ordered⟩ := constructorOrder_topological acyclic
  have same : order = [3, 2, 1, 0] := Except.ok.inj (ok.symm.trans rfl)
  exact ⟨acyclic, same ▸ ok, same ▸ ordered 2 0 use⟩

end UefiBuild.LinkGraph
