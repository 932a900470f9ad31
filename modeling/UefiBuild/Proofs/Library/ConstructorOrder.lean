import UefiBuild.Proofs.Library.Sorting

namespace UefiBuild.LinkGraph

open Relation

variable {ν : Type} [DecidableEq ν] {graph : LinkGraph ν} {a b : ν}

/-- The uses that the sort of a graph gives up. -/
def givenUp (graph : LinkGraph ν) : List (ν × ν) :=
  graph.givenUpWithin (graph.nodes.length + 1) graph.start

def KeptUse (graph : LinkGraph ν) (library consumer : ν) : Prop :=
  graph.ConsumedBy library consumer ∧ (library, consumer) ∉ graph.givenUp

theorem runs_sorting (graph : LinkGraph ν) : graph.Runs graph.start graph.givenUp graph.sorting :=
  runs_sortWithin _ (sound_start graph graph.uses) (by simp [start])

theorem sound_sorting (graph : LinkGraph ν) : graph.Sound graph.givenUp graph.sorting :=
  (runs_sorting graph).sound (fun _ => id) (sound_start graph graph.givenUp)

theorem expendable_of_givenUp (given : (a, b) ∈ graph.givenUp) : graph.Expendable a b :=
  (runs_sorting graph).expendable (fun _ => id) (sound_start graph graph.givenUp) given

theorem mem_sorted : a ∈ graph.sorting.sorted ↔ a ∈ graph.nodes ∧ isFree graph.sorting.uses a := by
  have free := (sound_sorting graph).mem_iff a
  rwa [(runs_sorting graph).stuck.1, List.append_nil] at free

theorem nodup_sorted (graph : LinkGraph ν) : graph.sorting.sorted.Nodup :=
  (List.nodup_append.1 (sound_sorting graph).distinct).1

theorem before_of_precedes (chain : TransGen (graph.Precedes graph.givenUp) a b)
    (sorted : a ∈ graph.sorting.sorted) : Before graph.sorting.sorted b a :=
  before_of_transGen (nodup_sorted graph) (sound_sorting graph).ordered chain sorted

theorem ConstructorUse.kept (use : graph.ConstructorUse a b) : graph.KeptUse a b :=
  ⟨use.1, fun given => (expendable_of_givenUp given).plain use.2.2⟩

theorem kept_of_not_blocked (use : graph.ConsumedBy a b) (clear : ¬ graph.Blocked b) :
    graph.KeptUse a b :=
  ⟨use, fun given => clear (expendable_of_givenUp given).blocked⟩

theorem precedes_of_kept (chain : TransGen graph.KeptUse a b) :
    TransGen (graph.Precedes graph.givenUp) a b :=
  TransGen.mono (fun _ _ => .inl) _ _ chain

theorem precedes_of_dependsOn (depends : graph.DependsOn b a) (clear : ¬ graph.Blocked b) :
    TransGen (graph.Precedes graph.givenUp) a b := by
  by_cases blocked : graph.Blocked a
  · obtain ⟨c, _, use⟩ := TransGen.tail'_iff.1 depends
    exact .single (.inr ⟨blocked, (graph.mem_of_use _ use).2, clear⟩)
  · induction depends with
    | single use => exact .single (.inl (kept_of_not_blocked use clear))
    | tail chain use ih =>
      have clearBelow := not_blocked_of_dependsOn chain blocked
      exact (ih clearBelow).tail (.inl (kept_of_not_blocked use clear))

theorem cycle?_eq_none_iff {uses : List (ν × ν)} :
    graph.cycle? uses = none ↔
      graph.constructing.length ≤ 1 ∨ ∀ a ∈ graph.constructing, isFree uses a := by
  unfold cycle?
  split
  · rename_i few
    simp [few]
  · rename_i several
    simp only [several, false_or, Option.map_eq_none_iff, List.find?_eq_none, constructs,
      Bool.and_eq_true, Bool.not_eq_true', decide_eq_true_eq, not_and]
    constructor
    · intro none a constructing
      have held := none a (graph.mem_of_constructing a constructing)
      by_contra blocked
      exact held (by simpa using blocked) constructing
    · intro free a _ held constructing
      simp [free a constructing] at held

theorem exists_constructorUse (constructing : a ∈ graph.constructing)
    (held : ¬ isFree graph.sorting.uses a) :
    ∃ b, graph.ConstructorUse a b ∧ b ∈ graph.constructing ∧ ¬ isFree graph.sorting.uses b := by
  simp only [isFree_iff, not_forall, not_not] at held
  obtain ⟨b, left⟩ := held
  have use := (sound_sorting graph).used _ left
  have known := (graph.mem_of_use _ use).2
  have strict := (runs_sorting graph).stuck.2 _ left
  have constructingToo : b ∈ graph.constructing := by
    by_contra plain
    have node := graph.mem_of_constructing a constructing
    exact strict (mem_looseUses.2 ⟨⟨node, constructing⟩, known, plain⟩)
  refine ⟨b, ⟨use, constructing, constructingToo⟩, constructingToo, fun free => ?_⟩
  exact (sound_sorting graph).unsorted _ left (mem_sorted.2 ⟨known, free⟩)

theorem cycle?_ne_none_iff :
    graph.cycle? graph.sorting.uses ≠ none ↔
      2 ≤ graph.constructing.length ∧ ∃ a, TransGen graph.ConstructorUse a a := by
  rw [ne_eq, cycle?_eq_none_iff, not_or, not_le]
  refine and_congr_right fun _ => ⟨fun stuck => ?_, ?_⟩
  · simp only [not_forall] at stuck
    obtain ⟨a, constructing, held⟩ := stuck
    obtain ⟨c, _, cycle⟩ := exists_cycle graph.constructing (R := graph.ConstructorUse)
      (P := fun a => a ∈ graph.constructing ∧ ¬ isFree graph.sorting.uses a) (fun _ => And.left)
      (fun _ left => exists_constructorUse left.1 left.2) ⟨constructing, held⟩
    exact ⟨c, cycle⟩
  · rintro ⟨a, cycle⟩ free
    obtain ⟨b, use, _⟩ := TransGen.head'_iff.1 cycle
    have sorted := mem_sorted.2 ⟨graph.mem_of_constructing a use.2.1, free a use.2.1⟩
    have chain := TransGen.mono (fun _ _ => ConstructorUse.kept) _ _ cycle
    exact (before_of_precedes (precedes_of_kept chain) sorted).ne (nodup_sorted graph) rfl

theorem sort_eq_ok_iff {order : List ν} :
    graph.sort = .ok order ↔ graph.cycle? graph.sorting.uses = none ∧
      order = graph.sorting.sorted ++ graph.nodes.filter (· ∉ graph.sorting.sorted) := by
  unfold sort outcome
  split
  · rename_i cycle found
    simp [found]
  · rename_i none
    simp only [none, true_and, Except.ok.injEq]
    exact eq_comm

theorem constructorOrder_eq_ok {order : List ν} (ok : graph.constructorOrder = .ok order) :
    graph.sort = .ok order.reverse := by
  unfold constructorOrder at ok
  cases result : graph.sort with
  | error cycle => simp [result, Except.map] at ok
  | ok reversed =>
    simp only [result, Except.map, Except.ok.injEq] at ok
    rw [← ok, List.reverse_reverse]

theorem mem_sorted_of_constructing {order : List ν} (ok : graph.sort = .ok order)
    (several : 2 ≤ graph.constructing.length) (constructing : a ∈ graph.constructing) :
    a ∈ graph.sorting.sorted := by
  have free := cycle?_eq_none_iff.1 (sort_eq_ok_iff.1 ok).1
  exact mem_sorted.2 ⟨graph.mem_of_constructing a constructing,
    free.resolve_left (by omega) a constructing⟩

theorem before_constructorOrder {order : List ν} (ok : graph.constructorOrder = .ok order)
    (left : a ∈ graph.constructing) (right : b ∈ graph.constructing) (distinct : a ≠ b)
    (chain : TransGen (graph.Precedes graph.givenUp) a b) : Before order a b := by
  have sorted := constructorOrder_eq_ok ok
  have member := mem_sorted_of_constructing sorted (two_le_constructing left right distinct) left
  have before := (before_of_precedes chain member).append
    (graph.nodes.filter (· ∉ graph.sorting.sorted))
  rw [← (sort_eq_ok_iff.1 sorted).2] at before
  simpa using before.reverse

theorem perm_of_sort_eq_ok {order : List ν} (ok : graph.sort = .ok order) :
    order.Nodup ∧ ∀ a, a ∈ order ↔ a ∈ graph.nodes := by
  rw [(sort_eq_ok_iff.1 ok).2]
  constructor
  · refine List.nodup_append.2 ⟨nodup_sorted graph, graph.nodup_nodes.filter _, ?_⟩
    rintro a sorted _ left rfl
    simp [sorted] at left
  · intro a
    have node : a ∈ graph.sorting.sorted → a ∈ graph.nodes := fun sorted => (mem_sorted.1 sorted).1
    simp only [List.mem_append, List.mem_filter, decide_eq_true_eq]
    tauto

theorem constructorOrder_respects_constructors {order : List ν}
    (ok : graph.constructorOrder = .ok order) :
    order.Nodup ∧ (∀ a, a ∈ order ↔ a ∈ graph.nodes) ∧
      ∀ library consumer, graph.ConstructorUse library consumer → library ≠ consumer →
        Before order library consumer := by
  have ⟨distinct, complete⟩ := perm_of_sort_eq_ok (constructorOrder_eq_ok ok)
  refine ⟨List.nodup_reverse.1 distinct, fun a => by rw [← complete a, List.mem_reverse], ?_⟩
  intro library consumer use other
  exact before_constructorOrder ok use.2.1 use.2.2 other (precedes_of_kept (.single use.kept))

def looped : LinkGraph Nat where
  nodes := [0, 1, 2]
  uses := [(1, 0), (0, 1), (2, 0)]
  constructing := [0, 2]

theorem constructorOrder_looped :
    looped.constructorOrder = .ok [2, 1, 0] ∧ looped.ConstructorUse 2 0 ∧ Before [2, 1, 0] 2 0 := by
  have ok : looped.constructorOrder = .ok [2, 1, 0] := rfl
  have use : looped.ConstructorUse 2 0 := by simp [ConstructorUse, ConsumedBy, looped]
  exact ⟨ok, use, (constructorOrder_respects_constructors ok).2.2 2 0 use (by decide)⟩

/-- The sort ends, and it fails exactly if constructors wait for each other. -/
theorem sort_error_iff_constructor_cycle (graph : LinkGraph ν) :
    (∃ given last, graph.Runs graph.start given last ∧ graph.sort = graph.outcome last) ∧
      ((∃ cycle, graph.sort = .error cycle) ↔
        2 ≤ graph.constructing.length ∧ ∃ a, TransGen graph.ConstructorUse a a) ∧
      ((∃ a, TransGen graph.ConstructorUse a a) ∨ ∃ order, graph.sort = .ok order) := by
  have error_iff :
      (∃ cycle, graph.sort = .error cycle) ↔ graph.cycle? graph.sorting.uses ≠ none := by
    unfold sort outcome
    cases graph.cycle? graph.sorting.uses <;> simp
  refine ⟨⟨graph.givenUp, graph.sorting, runs_sorting graph, rfl⟩,
    error_iff.trans cycle?_ne_none_iff, ?_⟩
  cases result : graph.sort with
  | error cycle => exact .inl (cycle?_ne_none_iff.1 (error_iff.1 ⟨cycle, result⟩)).2
  | ok order => exact .inr ⟨order, rfl⟩

/-- A dependency is constructed first, unless giving up uses has cut every way to it. -/
theorem dependency_constructed_first {order : List ν} (ok : graph.constructorOrder = .ok order) :
    (∀ library consumer,
      (library, consumer) ∈ graph.givenUp → graph.Expendable library consumer) ∧
    ∀ library consumer, library ∈ graph.constructing → consumer ∈ graph.constructing →
      graph.DependsOn consumer library → ¬ graph.DependsOn library consumer →
        ¬ graph.Blocked consumer ∨ TransGen graph.KeptUse library consumer →
          Before order library consumer := by
  refine ⟨fun _ _ => expendable_of_givenUp, ?_⟩
  intro library consumer constructing constructingToo depends independent way
  have distinct : library ≠ consumer := by
    rintro rfl
    exact independent depends
  apply before_constructorOrder ok constructing constructingToo distinct
  rcases way with clear | kept
  · exact precedes_of_dependsOn depends clear
  · exact precedes_of_kept kept

/-- A library 4 uses 2 by way of 3, and is itself used by a cycle. -/
def chained (nodes : List Nat) (distinct : nodes.Nodup) (all : ∀ a < 5, a ∈ nodes) :
    LinkGraph Nat where
  nodes := nodes
  uses := [(0, 1), (1, 0), (2, 3), (3, 4), (4, 1)]
  constructing := [0, 2, 4]
  nodup_nodes := distinct
  mem_of_constructing := by simp [all]
  mem_of_use := by simp [all]

section Chained

variable {nodes : List Nat} (distinct : nodes.Nodup) (all : ∀ a < 5, a ∈ nodes)

theorem dependsOn_chained : (chained nodes distinct all).DependsOn 4 2 := by
  have first : (chained nodes distinct all).ConsumedBy 2 3 := by simp [ConsumedBy, chained]
  have second : (chained nodes distinct all).ConsumedBy 3 4 := by simp [ConsumedBy, chained]
  exact (TransGen.single first).tail second

theorem not_dependsOn_chained : ¬ (chained nodes distinct all).DependsOn 2 4 := by
  intro depends
  have below : ∀ a, (chained nodes distinct all).DependsOn a 4 → a ≤ 1 := by
    intro a chain
    induction chain with
    | single use =>
      simp [ConsumedBy, chained] at use
      omega
    | tail _ use ih =>
      simp [ConsumedBy, chained] at use
      omega
  exact absurd (below 2 depends) (by decide)

end Chained

/-- The cycle is met before the chain. -/
def sparedChain : LinkGraph Nat := chained [0, 1, 2, 3, 4] (by decide) (by decide)

theorem constructorOrder_sparedChain :
    sparedChain.constructorOrder = .ok [2, 3, 4, 1, 0] ∧ TransGen sparedChain.KeptUse 2 4 ∧
      Before [2, 3, 4, 1, 0] 2 4 := by
  have ok : sparedChain.constructorOrder = .ok [2, 3, 4, 1, 0] := rfl
  have given : sparedChain.givenUp = [(0, 1)] := rfl
  have first : sparedChain.KeptUse 2 3 :=
    ⟨by simp [ConsumedBy, sparedChain, chained], by simp [given]⟩
  have second : sparedChain.KeptUse 3 4 :=
    ⟨by simp [ConsumedBy, sparedChain, chained], by simp [given]⟩
  have kept := (TransGen.single first).tail second
  exact ⟨ok, kept, (dependency_constructed_first ok).2 2 4 (by simp [sparedChain, chained])
    (by simp [sparedChain, chained]) (dependsOn_chained _ _) (not_dependsOn_chained _ _)
    (.inr kept)⟩

/-- The chain is met before the cycle. -/
def cutChain : LinkGraph Nat := chained [2, 3, 4, 0, 1] (by decide) (by decide)

/-- The use of 2 by 3 is given up although there is no cycle between 2 and 4. -/
theorem constructorOrder_cutChain :
    ∃ order, cutChain.constructorOrder = .ok order ∧ 2 ∈ cutChain.constructing ∧
      4 ∈ cutChain.constructing ∧ cutChain.DependsOn 4 2 ∧ ¬ cutChain.DependsOn 2 4 ∧
      ¬ Before order 2 4 := by
  refine ⟨[1, 0, 3, 4, 2], rfl, by simp [cutChain, chained], by simp [cutChain, chained],
    dependsOn_chained _ _, not_dependsOn_chained _ _, ?_⟩
  unfold Before
  decide

end UefiBuild.LinkGraph
