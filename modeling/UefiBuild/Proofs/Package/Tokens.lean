import Mathlib.Data.List.Pairwise
import Mathlib.Data.Prod.Lex
import Mathlib.Data.String.Basic
import UefiBuild.Proofs.Failing
import UefiBuild.Proofs.Pcd.TokenValue
import UefiBuild.Workspace.Checks

namespace UefiBuild

namespace TokenValue

/-- Two texts give the same token value: the same number, or, where neither is one, the same text. -/
def Same (a b : String) : Prop :=
  match read a, read b with
  | .ok m, .ok n => m = n
  | .error _, .error _ => a = b
  | _, _ => False

end TokenValue

namespace Package

variable {first second : Pcd → String} {a b : Pcd} {pcds : List Pcd}

theorem tokenText_eq_iff : tokenText a = tokenText b ↔ TokenValue.Same a.token b.token := by
  -- A text that is no token value is not the decimal form of one.
  have apart {number text : String} {n : Nat} {fault : TokenFault} (ok : TokenValue.read number = .ok n)
      (bad : TokenValue.read text = .error fault) : toString n ≠ text := by
    rintro rfl
    rw [TokenValue.read_toString (TokenValue.lt_of_read ok)] at bad
    cases bad
  unfold tokenText TokenValue.Same
  cases left : TokenValue.read a.token with
  | ok m =>
    cases right : TokenValue.read b.token with
    | ok n =>
      refine ⟨fun same : toString m = toString n => ?_, congrArg toString⟩
      have again := TokenValue.read_toString (TokenValue.lt_of_read right)
      rw [← same, TokenValue.read_toString (TokenValue.lt_of_read left)] at again
      exact Except.ok.inj again
    | error fault => exact iff_of_false (apart left right) id
  | error fault =>
    cases right : TokenValue.read b.token with
    | ok n => exact iff_of_false (apart right left).symm id
    | error other => rfl

theorem textLe_iff {a b : String} : textLe a b = true ↔ a ≤ b := by
  rw [textLe, Bool.not_eq_true', decide_eq_false_iff_not, not_lt]

theorem pairwise_orderBy (first second : Pcd → String) (pcds : List Pcd) :
    (orderBy first second pcds).Pairwise fun a b => first a ≤ first b := by
  let key (pcd : Pcd) : String ×ₗ String := toLex (first pcd, second pcd)
  let before (a b : Pcd) : Bool :=
    if first a = first b then textLe (second a) (second b) else textLe (first a) (first b)
  have before_iff (a b : Pcd) : before a b = true ↔ key a ≤ key b := by
    rw [Prod.Lex.toLex_le_toLex']
    by_cases same : first a = first b
    · simp [before, same, textLe_iff]
    · simp [before, same, textLe_iff]
  have trans (a b c : Pcd) (ab : before a b = true) (bc : before b c = true) : before a c = true :=
    (before_iff a c).2 (((before_iff a b).1 ab).trans ((before_iff b c).1 bc))
  have total (a b : Pcd) : (before a b || before b a) = true := by
    rw [Bool.or_eq_true, before_iff, before_iff]
    exact le_total (key a) (key b)
  refine (List.pairwise_mergeSort trans total pcds).imp fun {a b} ordered => ?_
  exact (Prod.Lex.toLex_le_toLex'.1 ((before_iff a b).1 ordered)).1

/-- In a list that is sorted by the first text, the items that share it stand together. So where
neighbours agree, all of them do. -/
theorem agree_of_neighbours (sorted : pcds.Pairwise fun a b => first a ≤ first b)
    (agree : ∀ pair ∈ neighbours pcds, first pair.1 = first pair.2 → second pair.1 = second pair.2) :
    pcds.Pairwise fun a b => first a = first b → second a = second b := by
  induction pcds with
  | nil => exact .nil
  | cons a rest ih =>
    obtain ⟨least, sortedRest⟩ := List.pairwise_cons.1 sorted
    cases rest with
    | nil => exact List.pairwise_singleton _ _
    | cons next others =>
      have later := ih sortedRest fun pair member => agree pair (List.mem_cons_of_mem _ member)
      refine List.pairwise_cons.2 ⟨fun b member same => ?_, later⟩
      have between : first next ≤ first b := by
        rcases List.mem_cons.1 member with rfl | member
        · exact le_rfl
        · exact (List.pairwise_cons.1 sortedRest).1 b member
      have shared : first a = first next :=
        le_antisymm (least next (by simp)) (between.trans same.ge)
      have here : second a = second next := agree (a, next) (by simp [neighbours]) shared
      rcases List.mem_cons.1 member with rfl | member
      · exact here
      · exact here.trans ((List.pairwise_cons.1 later).1 b member (shared.symm.trans same))

theorem mem_of_mem_neighbours {pair : Pcd × Pcd} (member : pair ∈ neighbours pcds) :
    pair.1 ∈ pcds ∧ pair.2 ∈ pcds := by
  obtain ⟨left, right⟩ := List.of_mem_zip member
  exact ⟨left, List.mem_of_mem_tail right⟩

theorem exists_neighbours_iff (first second : Pcd → String) (pcds : List Pcd) :
    (∃ pair ∈ neighbours (orderBy first second pcds),
        first pair.1 = first pair.2 ∧ second pair.1 ≠ second pair.2) ↔
      ∃ a ∈ pcds, ∃ b ∈ pcds, first a = first b ∧ second a ≠ second b := by
  have kept {pcd : Pcd} : pcd ∈ orderBy first second pcds ↔ pcd ∈ pcds := List.mem_mergeSort
  constructor
  · rintro ⟨pair, member, same, differ⟩
    obtain ⟨left, right⟩ := mem_of_mem_neighbours member
    exact ⟨pair.1, kept.1 left, pair.2, kept.1 right, same, differ⟩
  · rintro ⟨a, left, b, right, same, differ⟩
    by_contra none
    have agree : ∀ pair ∈ neighbours (orderBy first second pcds),
        first pair.1 = first pair.2 → second pair.1 = second pair.2 := fun pair member shared =>
      not_not.1 fun other => none ⟨pair, member, shared, other⟩
    have all := agree_of_neighbours (pairwise_orderBy first second pcds) agree
    have symmetric : Std.Symm fun a b : Pcd => first a = first b → second a = second b :=
      ⟨fun a b agrees shared => (agrees shared.symm).symm⟩
    exact differ (all.forall_of_forall (fun _ _ _ => rfl) (kept.2 left) (kept.2 right) same)

theorem isSome_sharedToken?_iff :
    (sharedToken? pcds).isSome ↔
      ∃ a ∈ pcds, ∃ b ∈ pcds, TokenValue.Same a.token b.token ∧ a.id.name ≠ b.id.name := by
  simp only [← tokenText_eq_iff, ← exists_neighbours_iff tokenText (·.id.name)]
  simp [sharedToken?]

theorem isSome_changedToken?_iff :
    (changedToken? pcds).isSome ↔
      ∃ a ∈ pcds, ∃ b ∈ pcds, a.id.name = b.id.name ∧ ¬ TokenValue.Same a.token b.token := by
  simp only [← tokenText_eq_iff, ← ne_eq, ← exists_neighbours_iff (·.id.name) tokenText]
  simp [changedToken?]

/-- Two declarations of one token space that get in each other's way: they share a token value, or
declare one item with two of them. -/
def Clash (a b : Pcd) : Prop :=
  a.id.space = b.id.space ∧
    (a.id.name ≠ b.id.name ∧ TokenValue.Same a.token b.token ∨
      a.id.name = b.id.name ∧ ¬ TokenValue.Same a.token b.token)

instance (a b : Pcd) : Decidable (Clash a b) :=
  decidable_of_iff (a.id.space = b.id.space ∧
    (a.id.name ≠ b.id.name ∧ tokenText a = tokenText b ∨
      a.id.name = b.id.name ∧ tokenText a ≠ tokenText b)) (by simp only [Clash, ne_eq, tokenText_eq_iff])

theorem fails_checkSpace_iff {file : SourcePath} :
    Checked.Fails (checkSpace file pcds) ↔
      (sharedToken? pcds).isSome ∨ (changedToken? pcds).isSome := by
  rw [checkSpace]
  cases shared : sharedToken? pcds with
  | some pair => exact iff_of_true (Checked.fails_error _) (by simp)
  | none =>
    cases changed : changedToken? pcds with
    | some pcd => exact iff_of_true (Checked.fails_error _) (by simp)
    | none => exact iff_of_false (Checked.not_fails_ok _) (by simp)

theorem fails_checkTokens_iff (package : Package) :
    Checked.Fails package.checkTokens ↔
      ∃ a ∈ package.pcds.values, ∃ b ∈ package.pcds.values, Clash a b := by
  unfold checkTokens
  simp only [Checked.fails_forM_iff, fails_checkSpace_iff, isSome_sharedToken?_iff,
    isSome_changedToken?_iff, List.mem_mergeSort, mem_distinct, List.mem_map, List.mem_filter,
    decide_eq_true_eq]
  constructor
  · rintro ⟨space, _, ⟨a, ⟨left, rfl⟩, b, ⟨right, same⟩, token, name⟩ |
      ⟨a, ⟨left, rfl⟩, b, ⟨right, same⟩, name, token⟩⟩
    · exact ⟨a, left, b, right, same.symm, .inl ⟨name, token⟩⟩
    · exact ⟨a, left, b, right, same.symm, .inr ⟨name, token⟩⟩
  · rintro ⟨a, left, b, right, same, ⟨name, token⟩ | ⟨name, token⟩⟩
    · exact ⟨_, ⟨a, left, rfl⟩, .inl ⟨a, ⟨left, rfl⟩, b, ⟨right, same.symm⟩, token, name⟩⟩
    · exact ⟨_, ⟨a, left, rfl⟩, .inr ⟨a, ⟨left, rfl⟩, b, ⟨right, same.symm⟩, name, token⟩⟩

def reversed (package : Package) : Package :=
  { package with
    pcds := {
      entries := package.pcds.entries.reverse
      nodup_keys := by
        rw [List.map_reverse]
        exact (List.reverse_perm _).nodup_iff.2 package.pcds.nodup_keys } }

theorem perm_values_reversed (package : Package) :
    package.reversed.pcds.values.Perm package.pcds.values :=
  (List.reverse_perm package.pcds.entries).map Prod.snd

end Package

end UefiBuild
