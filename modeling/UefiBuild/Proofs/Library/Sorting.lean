import UefiBuild.Proofs.Library.Dependency

namespace UefiBuild.LinkGraph

open Relation

variable {ν : Type} [DecidableEq ν]

/-- What giving up loose uses does: only loose uses go, and either exactly one node comes free or no
loose use is left. -/
structure Relaxed (uses loose : List (ν × ν)) (result : List (ν × ν) × Option ν) : Prop where
  used : ∀ use ∈ result.1, use ∈ uses
  given_up : ∀ use ∈ uses, use ∈ result.1 ∨ use ∈ loose
  free_iff : ∀ a, isFree result.1 a ↔ isFree uses a ∨ result.2 = some a
  held : ∀ a, result.2 = some a → ¬ isFree uses a
  exhausted : result.2 = none → ∀ use ∈ loose, use ∉ result.1

section Relax

variable {uses left loose : List (ν × ν)} {use : ν × ν} {result : List (ν × ν) × Option ν}

theorem isFree_without (without : ∀ other, other ∈ left ↔ other ∈ uses ∧ other ≠ use) {a : ν}
    (other : a ≠ use.1) : isFree left a ↔ isFree uses a := by
  simp only [isFree_iff, without]
  refine ⟨fun free b used => free b ⟨used, ?_⟩, fun free b used => free b used.1⟩
  rintro rfl
  exact other rfl

theorem not_isFree_of_mem (used : use ∈ uses) : ¬ isFree uses use.1 :=
  fun free => isFree_iff.1 free use.2 used

theorem mem_or_eq_of_without (without : ∀ other, other ∈ left ↔ other ∈ uses ∧ other ≠ use)
    {other : ν × ν} (used : other ∈ uses) : other ∈ left ∨ other = use := by
  by_cases same : other = use
  · exact .inr same
  · exact .inl ((without other).2 ⟨used, same⟩)

theorem Relaxed.skip (rest : Relaxed uses loose result) (absent : use ∉ uses) :
    Relaxed uses (use :: loose) result where
  used := rest.used
  given_up other used := (rest.given_up other used).imp_right (List.mem_cons_of_mem use)
  free_iff := rest.free_iff
  held := rest.held
  exhausted none other member := by
    rcases List.mem_cons.1 member with rfl | later
    · exact fun left => absent (rest.used other left)
    · exact rest.exhausted none other later

theorem Relaxed.drop (rest : Relaxed left loose result) (used : use ∈ uses)
    (without : ∀ other, other ∈ left ↔ other ∈ uses ∧ other ≠ use) (held : ¬ isFree left use.1) :
    Relaxed uses (use :: loose) result := by
  have free_iff : ∀ a, isFree left a ↔ isFree uses a := by
    intro a
    by_cases same : a = use.1
    · subst same
      simp [held, not_isFree_of_mem used]
    · exact isFree_without without same
  refine ⟨fun other kept => ((without other).1 (rest.used other kept)).1, ?_, ?_, ?_, ?_⟩
  · intro other member
    rcases mem_or_eq_of_without without member with kept | rfl
    · exact (rest.given_up other kept).imp_right (List.mem_cons_of_mem use)
    · exact .inr (by simp)
  · intro a
    rw [rest.free_iff a, free_iff a]
  · intro a freed
    rw [← free_iff a]
    exact rest.held a freed
  · intro none other member
    rcases List.mem_cons.1 member with rfl | later
    · exact fun kept => ((without other).1 (rest.used other kept)).2 rfl
    · exact rest.exhausted none other later

theorem Relaxed.release (loose : List (ν × ν)) (used : use ∈ uses)
    (without : ∀ other, other ∈ left ↔ other ∈ uses ∧ other ≠ use) (free : isFree left use.1) :
    Relaxed uses (use :: loose) (left, some use.1) := by
  refine ⟨fun other kept => ((without other).1 kept).1, ?_, ?_, ?_, by simp⟩
  · intro other member
    rcases mem_or_eq_of_without without member with kept | rfl
    · exact .inl kept
    · exact .inr (by simp)
  · intro a
    by_cases same : a = use.1
    · subst same
      simp [free]
    · rw [isFree_without without same]
      simp [Ne.symm same]
  · intro a freed
    cases freed
    exact not_isFree_of_mem used

end Relax

theorem relaxed (uses loose : List (ν × ν)) : Relaxed uses loose (relax uses loose) := by
  induction loose generalizing uses with
  | nil => exact ⟨fun _ => id, fun _ => .inl, by simp [relax], by simp [relax], by simp⟩
  | cons use others ih =>
    rw [relax]
    split
    · rename_i used
      have without : ∀ other, other ∈ uses.filter (· ≠ use) ↔ other ∈ uses ∧ other ≠ use := by simp
      simp only
      split
      · rename_i free
        exact Relaxed.release others used without free
      · rename_i held
        exact (ih _).drop used without held
    · rename_i absent
      exact (ih uses).skip absent

/-- Whether `b` is sorted before `a` in any sort that comes to `a`, where at most the uses in
`given` are given up. -/
def Precedes (graph : LinkGraph ν) (given : List (ν × ν)) (a b : ν) : Prop :=
  graph.ConsumedBy a b ∧ (a, b) ∉ given ∨ graph.Blocked a ∧ b ∈ graph.nodes ∧ ¬ graph.Blocked b

/-- What every state of a sort keeps in which at most the uses in `given` are given up. -/
structure Sound (graph : LinkGraph ν) (given : List (ν × ν)) (s : Sorting ν) : Prop where
  used : ∀ use ∈ s.uses, use ∈ graph.uses
  distinct : (s.sorted ++ s.waiting).Nodup
  mem_iff : ∀ a, a ∈ s.sorted ++ s.waiting ↔ a ∈ graph.nodes ∧ isFree s.uses a
  unsorted : ∀ use ∈ s.uses, use.2 ∉ s.sorted
  kept : ∀ a b, graph.ConsumedBy a b → (a, b) ∉ given → (a, b) ∈ s.uses ∨ b ∈ s.sorted
  /-- No blocked node comes free, and no use is given up, while some other node is left. -/
  calm : (∀ a ∈ graph.nodes, ¬ graph.Blocked a → a ∈ s.sorted) ∨
    (∀ a b, graph.ConsumedBy a b → (a, b) ∈ s.uses ∨ b ∈ s.sorted) ∧
      ∀ a ∈ s.sorted ++ s.waiting, ¬ graph.Blocked a
  ordered : ∀ a b, graph.Precedes given a b → a ∈ s.sorted → Before s.sorted b a

variable {graph : LinkGraph ν} {given : List (ν × ν)} {s : Sorting ν}

theorem Sound.sorted_of_waiting (sound : graph.Sound given s) {a b : ν}
    (precedes : graph.Precedes given a b) (waiting : a ∈ s.waiting) : b ∈ s.sorted := by
  have member : a ∈ s.sorted ++ s.waiting := List.mem_append_right _ waiting
  rcases precedes with ⟨use, kept⟩ | ⟨blocked, node, clear⟩
  · have free := isFree_iff.1 ((sound.mem_iff a).1 member).2
    exact (sound.kept a b use kept).resolve_left (free b)
  · rcases sound.calm with done | ⟨_, clearOnly⟩
    · exact done b node clear
    · exact absurd blocked (clearOnly a member)

/-- Where no node is free, every node left leads to a cycle of nodes that are left. -/
theorem Sound.sorted_of_not_blocked (sound : graph.Sound given s) (empty : s.waiting = []) {a : ν}
    (node : a ∈ graph.nodes) (clear : ¬ graph.Blocked a) : a ∈ s.sorted := by
  by_contra unsorted
  have next : ∀ b, b ∈ graph.nodes ∧ b ∉ s.sorted →
      ∃ c, graph.ConsumedBy b c ∧ c ∈ graph.nodes ∧ c ∉ s.sorted := by
    intro b left
    have held : ¬ isFree s.uses b := fun free => by
      have member := (sound.mem_iff b).2 ⟨left.1, free⟩
      rw [empty, List.append_nil] at member
      exact left.2 member
    simp only [isFree_iff, not_forall, not_not] at held
    obtain ⟨c, use⟩ := held
    exact ⟨c, sound.used _ use, (graph.mem_of_use _ (sound.used _ use)).2, sound.unsorted _ use⟩
  exact clear (exists_cycle graph.nodes (fun _ left => left.1) next ⟨node, unsorted⟩)

theorem sound_start (graph : LinkGraph ν) (given : List (ν × ν)) :
    graph.Sound given graph.start where
  used _ := id
  distinct := by
    simpa [start] using graph.nodup_nodes.filter _
  mem_iff a := by simp [start]
  unsorted := by simp [start]
  kept _ _ use _ := .inl use
  calm := by
    refine .inr ⟨fun _ _ => .inl, fun a member blocked => ?_⟩
    obtain ⟨b, use, _⟩ := blocked.consumer
    have free : isFree graph.uses a := by
      simp only [start, List.nil_append, List.mem_reverse, List.mem_filter] at member
      exact member.2
    exact isFree_iff.1 free b use
  ordered := by simp [start]

theorem refill_cases (graph : LinkGraph ν) (s : Sorting ν) :
    s.waiting ≠ [] ∧ graph.refill s = s ∨
      s.waiting = [] ∧ ∃ left freed, Relaxed s.uses graph.looseUses (left, freed) ∧
        graph.refill s = { s with uses := left, waiting := freed.toList } := by
  unfold refill
  split
  · rename_i empty
    exact .inr ⟨empty, _, _, relaxed s.uses graph.looseUses, rfl⟩
  · rename_i full
    exact .inl ⟨full, rfl⟩

def givenUpAt (graph : LinkGraph ν) (s : Sorting ν) : List (ν × ν) :=
  s.uses.filter fun use => !(graph.refill s).uses.contains use

theorem mem_givenUpAt {use : ν × ν} :
    use ∈ graph.givenUpAt s ↔ use ∈ s.uses ∧ use ∉ (graph.refill s).uses := by
  simp [givenUpAt]

theorem Sound.expendable (sound : graph.Sound given s) {a b : ν}
    (member : (a, b) ∈ graph.givenUpAt s) : graph.Expendable a b := by
  obtain ⟨used, gone⟩ := mem_givenUpAt.1 member
  rcases refill_cases graph s with ⟨_, same⟩ | ⟨empty, left, freed, spec, refilled⟩
  · rw [same] at gone
    exact absurd used gone
  · rw [refilled] at gone
    have loose := (spec.given_up _ used).resolve_left gone
    have ⟨⟨_, constructing⟩, known, plain⟩ := mem_looseUses.1 loose
    refine ⟨sound.used _ used, constructing, plain, ?_⟩
    by_contra clear
    exact sound.unsorted _ used (sound.sorted_of_not_blocked empty known clear)

section Release

variable {left : List (ν × ν)} {freed : Option ν}

theorem Sound.sorted_iff (sound : graph.Sound given s) (empty : s.waiting = []) (a : ν) :
    a ∈ s.sorted ↔ a ∈ graph.nodes ∧ isFree s.uses a := by
  have free := sound.mem_iff a
  rwa [empty, List.append_nil] at free

theorem Sound.release_distinct (sound : graph.Sound given s) (empty : s.waiting = [])
    (spec : Relaxed s.uses graph.looseUses (left, freed)) : (s.sorted ++ freed.toList).Nodup := by
  have old : s.sorted.Nodup := (List.nodup_append.1 sound.distinct).1
  cases freed with
  | none => simpa using old
  | some a =>
    have fresh : a ∉ s.sorted := by
      intro member
      exact spec.held a rfl ((sound.sorted_iff empty a).1 member).2
    refine List.nodup_append.2 ⟨old, by simp, fun b member c new same => ?_⟩
    simp only [Option.toList_some, List.mem_singleton] at new
    exact fresh (new ▸ same ▸ member)

theorem Sound.release_mem_iff (sound : graph.Sound given s) (empty : s.waiting = [])
    (spec : Relaxed s.uses graph.looseUses (left, freed)) (a : ν) :
    a ∈ s.sorted ++ freed.toList ↔ a ∈ graph.nodes ∧ isFree left a := by
  have free_iff : isFree left a ↔ isFree s.uses a ∨ freed = some a := spec.free_iff a
  have node : freed = some a → a ∈ graph.nodes := by
    intro same
    have held := spec.held a same
    simp only [isFree_iff, not_forall, not_not] at held
    obtain ⟨b, use⟩ := held
    exact (graph.mem_of_use _ (sound.used _ use)).1
  rw [List.mem_append, sound.sorted_iff empty, Option.mem_toList, free_iff]
  tauto

theorem Sound.release (sound : graph.Sound given s) (empty : s.waiting = [])
    (spec : Relaxed s.uses graph.looseUses (left, freed))
    (keeps : ∀ use ∈ s.uses, use ∉ given → use ∈ left) :
    graph.Sound given { s with uses := left, waiting := freed.toList } where
  used use kept := sound.used use (spec.used use kept)
  distinct := sound.release_distinct empty spec
  mem_iff := sound.release_mem_iff empty spec
  unsorted use kept := sound.unsorted use (spec.used use kept)
  kept a b use kept := (sound.kept a b use kept).imp_left fun used => keeps _ used kept
  calm := .inl fun _ node clear => sound.sorted_of_not_blocked empty node clear
  ordered := sound.ordered

end Release

theorem Sound.refill (sound : graph.Sound given s)
    (all : ∀ use ∈ graph.givenUpAt s, use ∈ given) : graph.Sound given (graph.refill s) := by
  have keeps : ∀ use ∈ s.uses, use ∉ given → use ∈ (graph.refill s).uses := by
    intro use used kept
    by_contra gone
    exact kept (all use (mem_givenUpAt.2 ⟨used, gone⟩))
  rcases refill_cases graph s with ⟨_, same⟩ | ⟨empty, left, freed, spec, refilled⟩
  · rwa [same]
  · rw [refilled] at keeps ⊢
    exact sound.release empty spec keeps

theorem mem_freed {uses : List (ν × ν)} {node a : ν} :
    a ∈ graph.freed uses node ↔
      a ∈ graph.nodes ∧ (a, node) ∈ uses ∧ isFree (uses.filter (·.2 ≠ node)) a := by
  simp [freed]

theorem isFree_iff_freed (uses : List (ν × ν)) (node a : ν) :
    isFree (uses.filter (·.2 ≠ node)) a ↔
      isFree uses a ∨ (a, node) ∈ uses ∧ isFree (uses.filter (·.2 ≠ node)) a := by
  by_cases used : (a, node) ∈ uses
  · have held : ¬ isFree uses a := fun free => isFree_iff.1 free node used
    simp only [used, held, true_and, Bool.false_eq_true, false_or]
  · simp only [used, false_and, or_false, isFree_iff, List.mem_filter, decide_eq_true_eq]
    refine ⟨fun free b member => free b ⟨member, ?_⟩, fun free b member => free b member.1⟩
    rintro rfl
    exact used member

theorem mem_take_uses {node : ν} {others : List ν} {use : ν × ν} :
    use ∈ (graph.take s node others).uses ↔ use ∈ s.uses ∧ use.2 ≠ node := by
  simp [take]

theorem take_free {node : ν} {others : List ν} (waiting : s.waiting = node :: others) :
    (graph.take s node others).sorted ++ (graph.take s node others).waiting =
      (s.sorted ++ s.waiting) ++ graph.freed s.uses node := by
  simp [take, waiting]

theorem take_uses {node : ν} (others : List ν) {a b : ν} (kept : (a, b) ∈ s.uses ∨ b ∈ s.sorted) :
    (a, b) ∈ (graph.take s node others).uses ∨ b ∈ (graph.take s node others).sorted := by
  rcases kept with used | sorted
  · by_cases same : b = node
    · exact .inr (by simp [take, same])
    · exact .inl (mem_take_uses.2 ⟨used, same⟩)
  · exact .inr (List.mem_append_left _ sorted)

theorem Sound.take_distinct (sound : graph.Sound given s) {node : ν} {others : List ν}
    (waiting : s.waiting = node :: others) :
    ((graph.take s node others).sorted ++ (graph.take s node others).waiting).Nodup := by
  rw [take_free waiting]
  refine List.nodup_append.2 ⟨sound.distinct, graph.nodup_nodes.filter _, ?_⟩
  rintro a member _ freed rfl
  exact isFree_iff.1 ((sound.mem_iff a).1 member).2 node (mem_freed.1 freed).2.1

theorem Sound.take_mem_iff (sound : graph.Sound given s) {node : ν} {others : List ν}
    (waiting : s.waiting = node :: others) (a : ν) :
    a ∈ (graph.take s node others).sorted ++ (graph.take s node others).waiting ↔
      a ∈ graph.nodes ∧ isFree (graph.take s node others).uses a := by
  have free_iff := isFree_iff_freed s.uses node a
  rw [take_free waiting, List.mem_append, sound.mem_iff, mem_freed]
  simp only [take]
  tauto

theorem Sound.take_clear (sound : graph.Sound given s) {node : ν} {others : List ν}
    (waiting : s.waiting = node :: others)
    (nothing : ∀ a b, graph.ConsumedBy a b → (a, b) ∈ s.uses ∨ b ∈ s.sorted)
    (clear : ∀ a ∈ s.sorted ++ s.waiting, ¬ graph.Blocked a) {a : ν}
    (member : a ∈ (graph.take s node others).sorted ++ (graph.take s node others).waiting) :
    ¬ graph.Blocked a := by
  intro blocked
  obtain ⟨b, use, blockedToo⟩ := blocked.consumer
  have free := ((sound.take_mem_iff waiting a).1 member).2
  have sorted := (take_uses others (nothing a b use)).resolve_left (isFree_iff.1 free b)
  refine clear b ?_ blockedToo
  rcases List.mem_append.1 sorted with old | last
  · exact List.mem_append_left _ old
  · rw [List.mem_singleton] at last
    exact List.mem_append_right _ (last ▸ waiting ▸ List.mem_cons_self)

theorem Sound.take (sound : graph.Sound given s) {node : ν} {others : List ν}
    (waiting : s.waiting = node :: others) : graph.Sound given (graph.take s node others) where
  used use left := sound.used use (mem_take_uses.1 left).1
  distinct := sound.take_distinct waiting
  mem_iff := sound.take_mem_iff waiting
  unsorted use left member := by
    have ⟨used, other⟩ := mem_take_uses.1 left
    rcases List.mem_append.1 member with sorted | last
    · exact sound.unsorted use used sorted
    · exact other (List.mem_singleton.1 last)
  kept a b use kept := take_uses others (sound.kept a b use kept)
  calm := by
    rcases sound.calm with done | ⟨nothing, clear⟩
    · exact .inl fun a member free => List.mem_append_left _ (done a member free)
    · exact .inr ⟨fun a b use => take_uses others (nothing a b use),
        fun a member => sound.take_clear waiting nothing clear member⟩
  ordered a b precedes member := by
    rcases List.mem_append.1 member with old | last
    · exact (sound.ordered a b precedes old).append [node]
    · rw [List.mem_singleton] at last
      subst last
      exact before_last (sound.sorted_of_waiting precedes (waiting ▸ List.mem_cons_self)) a

/-- The loop as it runs, without a bound: it ends where no node is free after loose uses have been
given up. The list holds every use that it gives up. -/
inductive Runs (graph : LinkGraph ν) : Sorting ν → List (ν × ν) → Sorting ν → Prop
  | stop {s : Sorting ν} (stuck : (graph.refill s).waiting = []) :
      Runs graph s (graph.givenUpAt s) (graph.refill s)
  | step {s last : Sorting ν} {node : ν} {others : List ν} {given : List (ν × ν)}
      (free : (graph.refill s).waiting = node :: others)
      (rest : Runs graph (graph.take (graph.refill s) node others) given last) :
      Runs graph s (graph.givenUpAt s ++ given) last

theorem Runs.sound {last : Sorting ν} {all : List (ν × ν)} (runs : graph.Runs s given last)
    (subset : ∀ use ∈ given, use ∈ all) (sound : graph.Sound all s) : graph.Sound all last := by
  induction runs with
  | stop _ => exact sound.refill subset
  | step free _ ih =>
    have now := sound.refill fun use member => subset use (List.mem_append_left _ member)
    exact ih (fun use member => subset use (List.mem_append_right _ member)) (now.take free)

theorem Runs.expendable {last : Sorting ν} {all : List (ν × ν)} (runs : graph.Runs s given last)
    (subset : ∀ use ∈ given, use ∈ all) (sound : graph.Sound all s) {a b : ν}
    (member : (a, b) ∈ given) : graph.Expendable a b := by
  induction runs with
  | stop _ => exact sound.expendable member
  | step free _ ih =>
    rcases List.mem_append.1 member with now | later
    · exact sound.expendable now
    · have next := sound.refill fun use member => subset use (List.mem_append_left _ member)
      refine ih (fun use member => ?_) (next.take free) later
      exact subset use (List.mem_append_right _ member)

theorem refill_stuck (stuck : (graph.refill s).waiting = []) :
    ∀ use ∈ (graph.refill s).uses, use ∉ graph.looseUses := by
  rcases refill_cases graph s with ⟨full, same⟩ | ⟨_, left, freed, spec, refilled⟩
  · rw [same] at stuck
    exact absurd stuck full
  · rw [refilled] at stuck ⊢
    have none : freed = none := by simpa using stuck
    exact fun use kept loose => spec.exhausted none use loose kept

theorem Runs.stuck {last : Sorting ν} (runs : graph.Runs s given last) :
    last.waiting = [] ∧ ∀ use ∈ last.uses, use ∉ graph.looseUses := by
  induction runs with
  | stop stuck => exact ⟨stuck, refill_stuck stuck⟩
  | step _ _ ih => exact ih

def givenUpWithin (graph : LinkGraph ν) : Nat → Sorting ν → List (ν × ν)
  | 0, _ => []
  | room + 1, s =>
    graph.givenUpAt s ++
      match (graph.refill s).waiting with
      | [] => []
      | node :: others => graph.givenUpWithin room (graph.take (graph.refill s) node others)

theorem Sound.length_sorted_le (sound : graph.Sound given s) :
    s.sorted.length ≤ graph.nodes.length := by
  have distinct : s.sorted.Nodup := (List.nodup_append.1 sound.distinct).1
  have subset : s.sorted ⊆ graph.nodes := fun a member =>
    ((sound.mem_iff a).1 (List.mem_append_left _ member)).1
  exact (distinct.subperm subset).length_le

theorem refill_sorted (graph : LinkGraph ν) (s : Sorting ν) :
    (graph.refill s).sorted = s.sorted := by
  unfold refill
  split <;> rfl

theorem runs_sortWithin (room : Nat) (sound : graph.Sound graph.uses s)
    (enough : graph.nodes.length < s.sorted.length + room) :
    graph.Runs s (graph.givenUpWithin room s) (graph.sortWithin room s) := by
  induction room generalizing s with
  | zero =>
    have bound := sound.length_sorted_le
    omega
  | succ room ih =>
    have next := sound.refill fun use member => sound.used use (mem_givenUpAt.1 member).1
    rw [givenUpWithin, sortWithin]
    cases free : (graph.refill s).waiting with
    | nil =>
      rw [List.append_nil]
      exact .stop free
    | cons node others =>
      refine .step free (ih (next.take free) ?_)
      simp only [take, refill_sorted, List.length_append, List.length_singleton]
      omega

end UefiBuild.LinkGraph
