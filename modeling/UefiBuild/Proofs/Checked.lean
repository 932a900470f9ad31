import Mathlib.Data.List.Forall2
import UefiBuild.Table

namespace UefiBuild

open List (Forall₂)

theorem forall₂_trans {α β γ : Type} {R : α → β → Prop} {S : β → γ → Prop} {T : α → γ → Prop}
    (chain : ∀ a b c, R a b → S b c → T a c) {l : List α} {m : List β} {n : List γ}
    (first : Forall₂ R l m) (second : Forall₂ S m n) : Forall₂ T l n := by
  induction first generalizing n with
  | nil =>
    cases second
    exact .nil
  | cons here _ ih =>
    cases second with
    | cons there others => exact .cons (chain _ _ _ here there) (ih others)

theorem exists_of_mem_forall₂ {α β : Type} {R : α → β → Prop} {l : List α} {l' : List β}
    (pairs : Forall₂ R l l') {b : β} (member : b ∈ l') : ∃ a ∈ l, R a b := by
  induction pairs with
  | nil => cases member
  | cons here _ ih =>
    rcases List.mem_cons.1 member with rfl | later
    · exact ⟨_, by simp, here⟩
    · obtain ⟨a, there, pair⟩ := ih later
      exact ⟨a, List.mem_cons_of_mem _ there, pair⟩

theorem exists_getLast?_of_forall₂ {α β : Type} {R : α → β → Prop} {l : List α} {l' : List β}
    (pairs : Forall₂ R l l') {b : β} (last : l'.getLast? = some b) :
    ∃ a, l.getLast? = some a ∧ R a b := by
  have reversed := List.forall₂_reverse_iff.2 pairs
  rw [List.getLast?_eq_head?_reverse] at last ⊢
  generalize l.reverse = m, l'.reverse = m' at reversed last ⊢
  cases reversed with
  | nil => cases last
  | cons here _ =>
    obtain rfl := Option.some.inj last
    exact ⟨_, rfl, here⟩

theorem map_fst_eq_of_forall₂ {κ α β : Type} {R : κ × α → κ × β → Prop} {l : List (κ × α)}
    {l' : List (κ × β)} (pairs : Forall₂ (fun a b => b.1 = a.1 ∧ R a b) l l') :
    l'.map Prod.fst = l.map Prod.fst := by
  induction pairs with
  | nil => rfl
  | cons here _ ih => rw [List.map_cons, List.map_cons, here.1, ih]

theorem Table.forall₂_entries {κ α β : Type} [DecidableEq κ] {R : κ → α → β → Prop} {t : Table κ α}
    {u : Table κ β} (sameKeys : u.keys = t.keys)
    (compare : ∀ key a b, t.get? key = some a → u.get? key = some b → R key a b) :
    Forall₂ (fun entry other => R entry.1 entry.2 other.2) t.entries u.entries := by
  have aligned : Forall₂ (· = ·) (t.entries.map Prod.fst) (u.entries.map Prod.fst) := by
    rw [List.forall₂_eq_eq_eq]
    exact sameKeys.symm
  rw [List.forall₂_map_left_iff, List.forall₂_map_right_iff, List.forall₂_iff_zip] at aligned
  rw [List.forall₂_iff_zip]
  refine ⟨aligned.1, fun {entry other} pair => ?_⟩
  obtain ⟨left, right⟩ := List.of_mem_zip pair
  have here : t.get? entry.1 = some entry.2 := Table.mem_entries.1 left
  have there : u.get? entry.1 = some other.2 := aligned.2 pair ▸ Table.mem_entries.1 right
  exact compare entry.1 entry.2 other.2 here there

namespace Checked

variable {ε ε' : Type} {α β : Type}

theorem bind_eq_ok {step : Except ε α} {next : α → Except ε β} {b : β} :
    (step >>= next) = .ok b ↔ ∃ a, step = .ok a ∧ next a = .ok b := by
  cases step with
  | error failure => simp [Bind.bind, Except.bind]
  | ok a => simp [Bind.bind, Except.bind]

theorem pure_eq_ok {a b : α} : (pure a : Except ε α) = .ok b ↔ a = b := by
  simp [pure, Except.pure]

theorem mapError_eq_ok {step : Except ε α} {change : ε → ε'} {a : α} :
    step.mapError change = .ok a ↔ step = .ok a := by
  cases step <;> simp [Except.mapError]

theorem mapM_eq_ok {step : α → Except ε β} {l : List α} {results : List β} :
    l.mapM step = .ok results ↔ Forall₂ (fun a b => step a = .ok b) l results := by
  induction l generalizing results with
  | nil => rw [List.mapM_nil, pure_eq_ok, List.forall₂_nil_left_iff, eq_comm]
  | cons a rest ih =>
    simp only [List.mapM_cons, bind_eq_ok, pure_eq_ok, List.forall₂_cons_left_iff, ih]
    constructor
    · rintro ⟨b, here, others, there, rfl⟩
      exact ⟨b, others, here, there, rfl⟩
    · rintro ⟨b, others, here, there, rfl⟩
      exact ⟨b, here, others, there, rfl⟩

theorem exists_of_mem_mapM {step : α → Except ε β} {l : List α} {results : List β}
    (done : l.mapM step = .ok results) {b : β} (member : b ∈ results) : ∃ a ∈ l, step a = .ok b :=
  exists_of_mem_forall₂ (mapM_eq_ok.1 done) member

theorem foldlM_induction {step : β → α → Except ε β} {inv : β → Prop} {l : List α} {start last : β}
    (done : l.foldlM step start = .ok last) (first : inv start)
    (keep : ∀ a ∈ l, ∀ b b', inv b → step b a = .ok b' → inv b') : inv last := by
  induction l generalizing start with
  | nil =>
    obtain rfl := pure_eq_ok.1 done
    exact first
  | cons a rest ih =>
    rw [List.foldlM_cons, bind_eq_ok] at done
    obtain ⟨next, here, there⟩ := done
    exact ih there (keep a (by simp) start next first here) fun b member =>
      keep b (List.mem_cons_of_mem a member)

/-- What holds of the items that are done holds of all of them in the end. -/
theorem foldlM_prefix {step : β → α → Except ε β} {inv : List α → β → Prop} {l done : List α}
    {start last : β} (finished : l.foldlM step start = .ok last) (first : inv done start)
    (keep : ∀ done, ∀ a ∈ l, ∀ b b', inv done b → step b a = .ok b' → inv (done ++ [a]) b') :
    inv (done ++ l) last := by
  induction l generalizing done start with
  | nil =>
    obtain rfl := pure_eq_ok.1 finished
    simpa using first
  | cons a rest ih =>
    rw [List.foldlM_cons, bind_eq_ok] at finished
    obtain ⟨next, here, there⟩ := finished
    have last := ih there (keep done a (by simp) start next first here) fun done b member =>
      keep done b (List.mem_cons_of_mem a member)
    simpa using last

end Checked

end UefiBuild
