import Mathlib.Data.List.Forall2
import Mathlib.Data.List.Induction
import UefiBuild.Wildcard

namespace UefiBuild

def lastFiled? {κ α : Type} [DecidableEq κ] (rows : List (κ × α)) (key : κ) : Option α :=
  (rows.filter (·.1 = key)).getLast?.map Prod.snd

theorem forall₂_filterMap {α β : Type} (f : α → Option β) (l : List α) :
    List.Forall₂ (fun a b => f a = some b) (l.filter fun a => (f a).isSome) (l.filterMap f) := by
  induction l with
  | nil => exact .nil
  | cons a rest ih =>
    cases found : f a with
    | none => simpa [found] using ih
    | some b => simpa [found] using ih

section Filing

variable {κ α : Type} [DecidableEq κ] {rows : List (κ × α)} {key : κ}

theorem lastFiled?_concat (rows : List (κ × α)) (row : κ × α) (key : κ) :
    lastFiled? (rows ++ [row]) key = if key = row.1 then some row.2 else lastFiled? rows key := by
  unfold lastFiled?
  by_cases same : key = row.1
  · simp [same]
  · have other : ¬ row.1 = key := fun h => same h.symm
    simp [same, other]

theorem lastFiled?_eq_none_iff : lastFiled? rows key = none ↔ ∀ row ∈ rows, row.1 ≠ key := by
  simp [lastFiled?]

theorem isSome_lastFiled? : (lastFiled? rows key).isSome ↔ ∃ row ∈ rows, row.1 = key := by
  rw [← Option.ne_none_iff_isSome, ne_eq, lastFiled?_eq_none_iff]
  simp

theorem mem_of_lastFiled? {value : α} (last : lastFiled? rows key = some value) : (key, value) ∈ rows := by
  obtain ⟨row, filed, rfl⟩ := Option.map_eq_some_iff.1 last
  obtain ⟨member, same⟩ := List.mem_filter.1 (List.mem_of_getLast? filed)
  rw [← of_decide_eq_true same]
  exact member

theorem Table.get?_ofList (rows : List (κ × α)) (key : κ) :
    (Table.ofList rows).get? key = lastFiled? rows key := by
  induction rows using List.reverseRecOn with
  | nil => rfl
  | append_singleton rows row ih => rw [ofList_concat, get?_insert, ih, lastFiled?_concat]

end Filing

namespace WildcardTable

variable {α : Type} {wildcard : String} {pattern other key : List String}

def Covers (wildcard : String) (pattern key : List String) : Prop :=
  List.Forall₂ (fun part wanted => part = wanted ∨ part = wildcard) pattern key

/-- Where two patterns differ for the first time, the more specific one has an exact part and the other
one the wildcard. -/
inductive MoreSpecific (wildcard : String) : List String → List String → Prop
  | here {part : String} {pattern other : List String} (exact : part ≠ wildcard) :
    MoreSpecific wildcard (part :: pattern) (wildcard :: other)
  | later {part : String} {pattern other : List String} (rest : MoreSpecific wildcard pattern other) :
    MoreSpecific wildcard (part :: pattern) (part :: other)

theorem MoreSpecific.ne (more : MoreSpecific wildcard pattern other) : pattern ≠ other := by
  induction more with
  | here exact => exact fun same => exact (List.cons.inj same).1
  | later _ ih => exact fun same => ih (List.cons.inj same).2

theorem MoreSpecific.asymm (more : MoreSpecific wildcard pattern other) :
    ¬ MoreSpecific wildcard other pattern := by
  induction more with
  | here exact =>
    intro back
    cases back with
    | here wild => exact wild rfl
    | later => exact exact rfl
  | later _ ih =>
    intro back
    cases back with
    | here wild => exact wild rfl
    | later back => exact ih back

instance (wildcard : String) (pattern key : List String) : Decidable (Covers wildcard pattern key) :=
  inferInstanceAs (Decidable (List.Forall₂ ..))

theorem mem_candidates : pattern ∈ candidates wildcard key ↔ Covers wildcard pattern key := by
  induction key generalizing pattern with
  | nil => simp [candidates, Covers]
  | cons wanted rest ih =>
    rw [Covers, List.forall₂_cons_right_iff, candidates, List.mem_append, List.mem_map]
    constructor
    · rintro (⟨below, member, rfl⟩ | wild)
      · exact ⟨wanted, below, .inl rfl, ih.1 member, rfl⟩
      · split at wild
        · cases wild
        · obtain ⟨below, member, rfl⟩ := List.mem_map.1 wild
          exact ⟨wildcard, below, .inr rfl, ih.1 member, rfl⟩
    · rintro ⟨part, below, exact | wild, covers, rfl⟩
      · exact .inl ⟨below, ih.2 covers, by rw [exact]⟩
      · by_cases same : wanted = wildcard
        · exact .inl ⟨below, ih.2 covers, by rw [same, wild]⟩
        · rw [if_neg same]
          exact .inr (List.mem_map.2 ⟨below, ih.2 covers, by rw [wild]⟩)

theorem pairwise_candidates (wildcard : String) (key : List String) :
    (candidates wildcard key).Pairwise (MoreSpecific wildcard) := by
  induction key with
  | nil => simp [candidates]
  | cons wanted rest ih =>
    have below (part : String) :
        ((candidates wildcard rest).map (part :: ·)).Pairwise (MoreSpecific wildcard) :=
      List.pairwise_map.2 (ih.imp .later)
    rw [candidates]
    split
    · rw [List.append_nil]
      exact below wanted
    · rename_i exact
      refine List.pairwise_append.2 ⟨below wanted, below wildcard, fun pattern first other second => ?_⟩
      obtain ⟨_, _, rfl⟩ := List.mem_map.1 first
      obtain ⟨_, _, rfl⟩ := List.mem_map.1 second
      exact .here exact

theorem mem_resolveAll {t : WildcardTable α} {value : α} :
    value ∈ t.resolveAll key ↔
      ∃ pattern, Covers t.wildcard pattern key ∧ t.entries.get? pattern = some value := by
  simp [resolveAll, mem_candidates]

theorem resolve?_eq_head? (t : WildcardTable α) (key : List String) :
    t.resolve? key = (t.resolveAll key).head? := by
  rw [resolve?, resolveAll, List.head?_filterMap]

theorem resolve?_eq_none_iff {t : WildcardTable α} :
    t.resolve? key = none ↔ ∀ pattern, Covers t.wildcard pattern key → t.entries.get? pattern = none := by
  simp [resolve?, mem_candidates]

def filed (wildcard : String) (rows : List (List String × α)) : WildcardTable α :=
  rows.foldl (fun t row => t.insert row.1 row.2) { wildcard }

theorem filed_eq (wildcard : String) (rows : List (List String × α)) :
    filed wildcard rows = { entries := .ofList rows, wildcard } := by
  induction rows using List.reverseRecOn with
  | nil => rfl
  | append_singleton rows row ih =>
    rw [filed, List.foldl_concat, ← filed, ih, Table.ofList_concat]
    rfl

/-- A lookup gives the last value of each pattern that covers the key, once each and the most specific
pattern first. -/
theorem resolveAll_most_specific_first (wildcard : String) (rows : List (List String × α))
    (key : List String) :
    let t := filed wildcard rows
    ∃ patterns : List (List String),
      (∀ pattern, pattern ∈ patterns ↔ (∃ row ∈ rows, row.1 = pattern) ∧ Covers wildcard pattern key) ∧
      patterns.Nodup ∧ patterns.Pairwise (MoreSpecific wildcard) ∧
      List.Forall₂ (fun pattern value => lastFiled? rows pattern = some value) patterns
        (t.resolveAll key) ∧
      t.resolve? key = (t.resolveAll key).head? ∧
      (t.resolve? key = none ↔ ∀ row ∈ rows, ¬ Covers wildcard row.1 key) := by
  intro t
  have shown : t = { entries := .ofList rows, wildcard } := filed_eq wildcard rows
  let found := (candidates wildcard key).filter fun pattern => (lastFiled? rows pattern).isSome
  have sorted : found.Pairwise (MoreSpecific wildcard) := (pairwise_candidates wildcard key).filter _
  refine ⟨found, fun pattern => ?_, sorted.imp MoreSpecific.ne, sorted, ?_, resolve?_eq_head? t key, ?_⟩
  · rw [List.mem_filter, mem_candidates, isSome_lastFiled?, and_comm]
  · have results : t.resolveAll key = (candidates wildcard key).filterMap (lastFiled? rows) := by
      rw [resolveAll, shown]
      exact List.filterMap_congr fun pattern _ => Table.get?_ofList rows pattern
    exact results ▸ forall₂_filterMap _ _
  · rw [resolve?_eq_none_iff, shown]
    simp only [Table.get?_ofList, lastFiled?_eq_none_iff]
    exact ⟨fun none row member covers => none _ covers row member rfl,
      fun none pattern covers row member same => none row member (same ▸ covers)⟩

example : (filed "*" [(["*", "B"], 1), (["A", "*"], 2), (["*", "B"], 3)]).resolveAll ["A", "B"] = [2, 3] := by
  decide

/-- The pattern that decides what a key stands for: no row that covers the key has a more specific one. -/
structure Decides (wildcard : String) (rows : List (List String × α)) (key pattern : List String) : Prop where
  filed : ∃ row ∈ rows, row.1 = pattern
  covers : Covers wildcard pattern key
  first : ∀ row ∈ rows, Covers wildcard row.1 key → row.1 = pattern ∨ MoreSpecific wildcard pattern row.1

theorem Decides.unique {rows : List (List String × α)} (one : Decides wildcard rows key pattern)
    (two : Decides wildcard rows key other) : pattern = other := by
  obtain ⟨row, member, rfl⟩ := one.filed
  obtain ⟨row', member', rfl⟩ := two.filed
  rcases one.first row' member' two.covers with same | more
  · exact same.symm
  · rcases two.first row member one.covers with same | back
    · exact same
    · exact absurd back more.asymm

theorem exists_decides_of_resolve? {rows : List (List String × α)} {value : α}
    (found : (filed wildcard rows).resolve? key = some value) :
    ∃ pattern, Decides wildcard rows key pattern ∧ lastFiled? rows pattern = some value := by
  rw [filed_eq, resolve?] at found
  obtain ⟨before, pattern, after, sorted, here, misses⟩ := List.findSome?_eq_some_iff.1 found
  rw [Table.get?_ofList] at here
  have ranked := pairwise_candidates wildcard key
  rw [sorted, List.pairwise_append, List.pairwise_cons] at ranked
  have filed := isSome_lastFiled?.1 (Option.isSome_of_eq_some here)
  refine ⟨pattern, ⟨filed, mem_candidates.1 (by simp [sorted]), fun row member covers => ?_⟩, here⟩
  have candidate := mem_candidates.2 covers
  rw [sorted, List.mem_append, List.mem_cons] at candidate
  rcases candidate with earlier | same | later
  · -- a lookup has passed over every earlier candidate, so no row has been filed under it
    have none := misses _ earlier
    rw [Table.get?_ofList, lastFiled?_eq_none_iff] at none
    exact absurd rfl (none row member)
  · exact .inl same
  · exact .inr (ranked.2.1.1 _ later)

theorem exists_row_of_resolve? {rows : List (List String × α)} {value : α}
    (found : (filed wildcard rows).resolve? key = some value) :
    ∃ row ∈ rows, Covers wildcard row.1 key ∧ row.2 = value := by
  obtain ⟨pattern, decides, last⟩ := exists_decides_of_resolve? found
  exact ⟨(pattern, value), mem_of_lastFiled? last, decides.covers, rfl⟩

theorem isSome_resolve?_filed {rows : List (List String × α)} :
    ((filed wildcard rows).resolve? key).isSome ↔ ∃ row ∈ rows, Covers wildcard row.1 key := by
  constructor
  · intro found
    obtain ⟨value, found⟩ := Option.isSome_iff_exists.1 found
    obtain ⟨row, member, covers, -⟩ := exists_row_of_resolve? found
    exact ⟨row, member, covers⟩
  · rintro ⟨row, member, covers⟩
    rw [← Option.ne_none_iff_isSome, filed_eq]
    intro none
    have unfiled := resolve?_eq_none_iff.1 none row.1 covers
    rw [Table.get?_ofList, lastFiled?_eq_none_iff] at unfiled
    exact unfiled row member rfl

theorem resolve?_filed_eq_some_iff {rows : List (List String × α)} {value : α} :
    (filed wildcard rows).resolve? key = some value ↔
      ∃ pattern, Decides wildcard rows key pattern ∧ lastFiled? rows pattern = some value := by
  refine ⟨exists_decides_of_resolve?, fun ⟨pattern, decides, last⟩ => ?_⟩
  obtain ⟨row, member, same⟩ := decides.filed
  obtain ⟨other, found⟩ := Option.isSome_iff_exists.1
    (isSome_resolve?_filed.2 ⟨row, member, same ▸ decides.covers⟩)
  obtain ⟨pattern', decides', last'⟩ := exists_decides_of_resolve? found
  rw [found, ← last, ← last', decides.unique decides']

end WildcardTable

end UefiBuild
