import UefiBuild.Table

namespace UefiBuild

/-- Libraries and the libraries that consume them. Some have a constructor, which must run before
those of their consumers. -/
structure LinkGraph (ν : Type) where
  nodes : List ν := []
  /-- Each library with a consumer, in the order in which they were found. -/
  uses : List (ν × ν) := []
  constructing : List ν := []
  nodup_nodes : nodes.Nodup := by simp
  nodup_constructing : constructing.Nodup := by simp
  mem_of_constructing : ∀ a ∈ constructing, a ∈ nodes := by simp
  mem_of_use : ∀ use ∈ uses, use.1 ∈ nodes ∧ use.2 ∈ nodes := by simp

namespace LinkGraph

variable {ν : Type}

instance : EmptyCollection (LinkGraph ν) := ⟨{}⟩

@[simp] theorem nodes_empty : (∅ : LinkGraph ν).nodes = [] := rfl

variable [DecidableEq ν]

def isFree (uses : List (ν × ν)) (a : ν) : Bool := uses.all (·.1 ≠ a)

theorem isFree_iff {uses : List (ν × ν)} {a : ν} : isFree uses a ↔ ∀ b, (a, b) ∉ uses := by
  simp only [isFree, List.all_eq_true, decide_eq_true_eq, Prod.forall]
  exact ⟨fun free b use => free a b use rfl, fun free c b use same => free b (same ▸ use)⟩

def constructs (graph : LinkGraph ν) (a : ν) : Bool := a ∈ graph.constructing

def addNode (graph : LinkGraph ν) (a : ν) (constructs : Bool) : LinkGraph ν :=
  if present : a ∈ graph.nodes then graph
  else
    { nodes := graph.nodes ++ [a]
      uses := graph.uses
      constructing := if constructs then graph.constructing ++ [a] else graph.constructing
      nodup_nodes := List.nodup_append.2 ⟨graph.nodup_nodes, by simp, fun b old c new same => by
        rw [List.mem_singleton] at new
        exact present (new ▸ same ▸ old)⟩
      nodup_constructing := by
        split
        · refine List.nodup_append.2 ⟨graph.nodup_constructing, by simp, fun b old c new same => ?_⟩
          rw [List.mem_singleton] at new
          exact present (new ▸ same ▸ graph.mem_of_constructing b old)
        · exact graph.nodup_constructing
      mem_of_constructing := by
        intro b constructing
        have cases : b ∈ graph.constructing ∨ b = a := by
          split at constructing
          · simpa using constructing
          · exact .inl constructing
        rcases cases with old | rfl
        · exact List.mem_append_left _ (graph.mem_of_constructing b old)
        · simp
      mem_of_use := fun use used =>
        ⟨List.mem_append_left _ (graph.mem_of_use use used).1,
          List.mem_append_left _ (graph.mem_of_use use used).2⟩ }

theorem mem_addNode {graph : LinkGraph ν} {a b : ν} {constructs : Bool} :
    b ∈ (graph.addNode a constructs).nodes ↔ b ∈ graph.nodes ∨ b = a := by
  unfold addNode
  split
  · rename_i present
    exact ⟨.inl, fun either => either.elim id (· ▸ present)⟩
  · simp

def addUse (graph : LinkGraph ν) (library consumer : ν) (known : library ∈ graph.nodes)
    (consuming : consumer ∈ graph.nodes) : LinkGraph ν :=
  { graph with
    uses := addNew graph.uses (library, consumer)
    mem_of_use := by
      intro use used
      unfold addNew at used
      split at used
      · exact graph.mem_of_use use used
      · rcases List.mem_append.1 used with old | new
        · exact graph.mem_of_use use old
        · rw [List.mem_singleton] at new
          subst new
          exact ⟨known, consuming⟩ }

/-- The uses that can be given up: a library without constructor consumes one that has some. -/
def looseUses (graph : LinkGraph ν) : List (ν × ν) :=
  (graph.nodes.filter graph.constructs).flatMap fun a =>
    (graph.nodes.filter fun b => !graph.constructs b).map (a, ·)

/-- Gives up loose uses until a node comes free. -/
def relax : List (ν × ν) → List (ν × ν) → List (ν × ν) × Option ν
  | uses, [] => (uses, none)
  | uses, use :: others =>
    if use ∈ uses then
      let left := uses.filter (· ≠ use)
      if isFree left use.1 then (left, some use.1) else relax left others
    else relax uses others

structure Sorting (ν : Type) where
  uses : List (ν × ν)
  waiting : List ν
  sorted : List ν := []

def start (graph : LinkGraph ν) : Sorting ν where
  uses := graph.uses
  waiting := (graph.nodes.filter (isFree graph.uses)).reverse

/-- Loose uses are given up only where all nodes that are left have consumers. -/
def refill (graph : LinkGraph ν) (s : Sorting ν) : Sorting ν :=
  if s.waiting = [] then
    let (left, freed?) := relax s.uses graph.looseUses
    { s with uses := left, waiting := freed?.toList }
  else s

def freed (graph : LinkGraph ν) (uses : List (ν × ν)) (node : ν) : List ν :=
  graph.nodes.filter fun a =>
    (a, node) ∈ uses && isFree (uses.filter (·.2 ≠ node)) a

def take (graph : LinkGraph ν) (s : Sorting ν) (node : ν) (others : List ν) : Sorting ν where
  uses := s.uses.filter (·.2 ≠ node)
  waiting := others ++ graph.freed s.uses node
  sorted := s.sorted ++ [node]

/-- Sorts consumers before their libraries. What remains are the uses among nodes that could not be
sorted. -/
def sortWithin (graph : LinkGraph ν) : Nat → Sorting ν → Sorting ν
  | 0, s => s
  | room + 1, s =>
    let s := graph.refill s
    match s.waiting with
    | [] => s
    | node :: others => graph.sortWithin room (graph.take s node others)

structure Cycle (ν : Type) where
  library : ν
  consumers : List ν

def cycle? (graph : LinkGraph ν) (uses : List (ν × ν)) : Option (Cycle ν) :=
  if graph.constructing.length ≤ 1 then none
  else
    (graph.nodes.find? fun a => !isFree uses a && graph.constructs a).map fun library =>
      { library, consumers := ((uses.filter (·.1 = library)).map Prod.snd).reverse }

/-- The nodes that could not be sorted come last. It is an error if one of several constructors is
among them. -/
def outcome (graph : LinkGraph ν) (s : Sorting ν) : Except (Cycle ν) (List ν) :=
  match graph.cycle? s.uses with
  | some cycle => .error cycle
  | none => .ok (s.sorted ++ graph.nodes.filter (· ∉ s.sorted))

/-- Where a sort ends. Every node is sorted at most once, which bounds the search. -/
def sorting (graph : LinkGraph ν) : Sorting ν :=
  graph.sortWithin (graph.nodes.length + 1) graph.start

def sort (graph : LinkGraph ν) : Except (Cycle ν) (List ν) := graph.outcome graph.sorting

def constructorOrder (graph : LinkGraph ν) : Except (Cycle ν) (List ν) :=
  graph.sort.map List.reverse

end LinkGraph

end UefiBuild
