import UefiBuild.Proofs.Depex.Condition
import UefiBuild.Proofs.Depex.Joining

namespace UefiBuild

open Condition (Spells Expresses)

section Expresses

variable {rank : Connective → Nat} {level : Nat} {condition other : Condition} {words tokens : List String}

theorem Condition.Spells.withoutEnd_eq (spelled : Spells rank level condition words) :
    Module.withoutEnd words = words := by
  unfold Module.withoutEnd
  split
  · rename_i last
    have allowed : "END" ∈ Condition.conditionWords :=
      spelled.mem_conditionWords (List.mem_of_getLast? last) (by decide)
    exact absurd allowed (by decide)
  · rfl

theorem Condition.Expresses.spells (expresses : Expresses rank condition words) :
    Spells rank 0 condition (Module.withoutEnd words) := by
  rcases expresses with spelled | ⟨body, rfl, spelled⟩
  · rwa [spelled.withoutEnd_eq]
  · rwa [Module.withoutEnd_concat, if_pos rfl]

theorem Condition.Expresses.unique (expresses : Expresses rank condition words)
    (again : Expresses rank other words) : condition = other :=
  expresses.spells.unique again.spells

theorem Condition.Expresses.forall_iff (expresses : Expresses rank condition words)
    (installed : String → Bool) :
    (∀ part, Expresses rank part words → part.holds installed = true) ↔
      condition.holds installed = true := by
  constructor
  · exact fun all => all condition expresses
  · intro holds part again
    rwa [← expresses.unique again]

theorem Condition.Expresses.notOrdering (expresses : Expresses rank condition words) :
    words.any Module.isOrdering = false := by
  rw [← Module.any_isOrdering_withoutEnd, List.any_eq_false]
  intro word member ordering
  have reserved : word = "BEFORE" ∨ word = "AFTER" := by simpa [Module.isOrdering] using ordering
  have allowed : word ∈ Module.depexWords → word ∈ Condition.conditionWords :=
    expresses.spells.mem_conditionWords member
  rcases reserved with rfl | rfl <;> exact absurd (allowed (by decide)) (by decide)

end Expresses

namespace Module

variable {rank : Connective → Nat} {level : Nat} {condition other : Condition}
  {tokens expression : List String} {arch : String}

theorem spells_joinDepex_nil (expresses : Expresses rank condition expression) :
    Spells rank level condition (joinDepex [] expression) := by
  rw [joinDepex_nil]
  exact .enclosed expresses.spells

theorem spells_joinDepex (spelled : Spells rank (rank .and) condition tokens)
    (expresses : Expresses rank other expression) :
    Spells rank (rank .and) (.joined .and condition other) (joinDepex tokens expression) := by
  have joined : joinDepex tokens expression = tokens ++ Connective.and.word :: joinDepex [] expression := by
    have filled : tokens.isEmpty = false := by simpa using spelled.ne_nil
    rw [joinDepex_nil, joinDepex_eq, joinWords, filled]
    simp [Connective.word]
  rw [joined]
  exact .joined (Nat.le_refl _) spelled (spells_joinDepex_nil expresses)

/-- What is joined to the words of a condition asks for the condition and for all that is joined. -/
theorem spells_foldl_joinDepex {expressions : List (List String)}
    (expressed : ∀ expression ∈ expressions, ∃ condition, Expresses rank condition expression)
    (spelled : Spells rank (rank .and) condition tokens) :
    ∃ whole, Spells rank (rank .and) whole (expressions.foldl joinDepex tokens) ∧
      ∀ installed, whole.holds installed = true ↔ condition.holds installed = true ∧
        ∀ expression ∈ expressions, ∀ part, Expresses rank part expression →
          part.holds installed = true := by
  induction expressions generalizing condition tokens with
  | nil => exact ⟨condition, spelled, fun installed => by simp⟩
  | cons expression rest ih =>
    obtain ⟨first, expresses⟩ := expressed expression (by simp)
    have later := fun e (member : e ∈ rest) => expressed e (List.mem_cons_of_mem expression member)
    obtain ⟨whole, spelledWhole, means⟩ := ih later (spells_joinDepex spelled expresses)
    refine ⟨whole, spelledWhole, fun installed => ?_⟩
    have both : (Condition.joined .and condition first).holds installed = true ↔
        condition.holds installed = true ∧ first.holds installed = true := Bool.and_eq_true_iff
    rw [means installed, both, List.forall_mem_cons, expresses.forall_iff installed, and_assoc]

theorem spells_joined {expressions : List (List String)}
    (expressed : ∀ expression ∈ expressions, ∃ condition, Expresses rank condition expression)
    (filled : expressions ≠ []) :
    ∃ whole, Spells rank 0 whole (expressions.foldl joinDepex []) ∧
      ∀ installed, whole.holds installed = true ↔
        ∀ expression ∈ expressions, ∀ part, Expresses rank part expression →
          part.holds installed = true := by
  cases expressions with
  | nil => exact absurd rfl filled
  | cons expression rest =>
    obtain ⟨first, expresses⟩ := expressed expression (by simp)
    have later := fun e (member : e ∈ rest) => expressed e (List.mem_cons_of_mem expression member)
    obtain ⟨whole, spelled, means⟩ := spells_foldl_joinDepex later (spells_joinDepex_nil expresses)
    refine ⟨whole, spelled.mono (Nat.zero_le _), fun installed => ?_⟩
    rw [means installed, List.forall_mem_cons, expresses.forall_iff installed]

/-- The joined expression asks for all that the applicable expressions of the module and of its
libraries ask for, and for nothing else. `rank` says how tightly the connectives bind. -/
theorem mergedDepex_conjunction (rank : Connective → Nat) {module : Module} {libraries : List Module}
    {arch : String} (merges : module.mergesDepex = true)
    (expressed : ∀ m ∈ module :: libraries, ∀ expression, m.DepexApplies arch module.type expression →
      ∃ condition, Expresses rank condition (depexValues expression)) :
    ∃ merged, module.mergedDepex libraries arch = some merged ∧
      (merged = [] ↔
        ∀ m ∈ module :: libraries, ∀ expression, ¬ m.DepexApplies arch module.type expression) ∧
      (merged ≠ [] → ∃ whole, (∀ other, Spells rank 0 other merged ↔ other = whole) ∧
        ∀ installed, whole.holds installed = true ↔
          ∀ m ∈ module :: libraries, ∀ expression, m.DepexApplies arch module.type expression →
            ∀ condition, Expresses rank condition (depexValues expression) →
              condition.holds installed = true) := by
  let expressions := (module :: libraries).flatMap fun m => m.applicableDepex arch module.type
  have listed : ∀ expression, expression ∈ expressions ↔
      ∃ m ∈ module :: libraries, m.DepexApplies arch module.type expression := by
    intro expression
    simp only [expressions, List.mem_flatMap, mem_applicableDepex]
  have unordered : ∀ m ∈ module :: libraries, hasOrdering arch module.type m = false := by
    intro m member
    rw [hasOrdering, List.any_eq_false]
    intro expression applicable
    obtain ⟨condition, expresses⟩ := expressed m member expression (mem_applicableDepex.1 applicable)
    rw [expresses.notOrdering]
    decide
  have joined := mergedDepex_of_unordered merges unordered
  have allExpressed : ∀ values ∈ expressions.map depexValues,
      ∃ condition, Expresses rank condition values := by
    intro values member
    obtain ⟨expression, inAll, rfl⟩ := List.mem_map.1 member
    obtain ⟨m, inList, applies⟩ := (listed expression).1 inAll
    exact expressed m inList expression applies
  refine ⟨_, joined, ?_, fun filled => ?_⟩
  · rw [foldl_joinDepex_eq_nil_iff, List.map_eq_nil_iff, List.eq_nil_iff_forall_not_mem]
    constructor
    · exact fun absent m member expression applies => absent expression ((listed _).2 ⟨m, member, applies⟩)
    · intro absent expression member
      obtain ⟨m, inList, applies⟩ := (listed expression).1 member
      exact absent m inList expression applies
  · have some : expressions.map depexValues ≠ [] := fun empty =>
      filled (foldl_joinDepex_eq_nil_iff.2 empty)
    obtain ⟨whole, spelled, means⟩ := spells_joined allExpressed some
    refine ⟨whole, fun other => ⟨fun again => again.unique spelled, fun same => same ▸ spelled⟩, ?_⟩
    intro installed
    rw [means installed, List.forall_mem_map]
    constructor
    · exact fun all m member expression applies => all expression ((listed _).2 ⟨m, member, applies⟩)
    · intro all expression member
      obtain ⟨m, inList, applies⟩ := (listed expression).1 member
      exact all m inList expression applies

def conditionalDriver : Module where
  file := .ofText "Mod.inf"
  arch := "X64"
  type := .dxeDriver
  buildType := "DXE_DRIVER"
  depex := { entries := .ofList [
    (["X64", "DXE_DRIVER"],
      [⟨"gTestPpiGuid", "{0x9991}"⟩, ⟨"OR", "OR"⟩, ⟨"gLibProtocolGuid", "{0x8e3b}"⟩, ⟨"END", "END"⟩]),
    (["COMMON", "COMMON"], [⟨"NOT", "NOT"⟩, ⟨"gTestProtocolGuid", "{0x5a1f}"⟩])] }

def unconditionalLibrary : Module where
  file := .ofText "Lib.inf"
  arch := "X64"
  type := .base
  buildType := "BASE"
  depex := { entries := .ofList [(["COMMON", "DXE_DRIVER"], [⟨"TRUE", "TRUE"⟩])] }

theorem mergedDepex_conditionalDriver :
    let rank : Connective → Nat := fun connective => if connective = .and then 1 else 0
    let modules := [conditionalDriver, unconditionalLibrary]
    let merged := ["(", "{0x9991}", "OR", "{0x8e3b}", ")", "AND", "(", "NOT", "{0x5a1f}", ")", "AND",
      "(", "TRUE", ")"]
    (∀ m ∈ modules, ∀ expression, m.DepexApplies "X64" .dxeDriver expression →
        ∃ condition, Expresses rank condition (depexValues expression)) ∧
      conditionalDriver.mergedDepex [unconditionalLibrary] "X64" = some merged ∧
      ∃ whole, Spells rank 0 whole merged ∧ ∀ installed, whole.holds installed = true ↔
        ∀ m ∈ modules, ∀ expression, m.DepexApplies "X64" .dxeDriver expression →
          ∀ condition, Expresses rank condition (depexValues expression) →
            condition.holds installed = true := by
  intro rank modules merged
  have choice : Expresses rank (.joined .or (.installed "{0x9991}") (.installed "{0x8e3b}"))
      ["{0x9991}", "OR", "{0x8e3b}", "END"] :=
    .inr ⟨_, rfl, .joined (Nat.le_refl _) (.installed (by decide)) (.installed (by decide))⟩
  have refusal : Expresses rank (.negation (.installed "{0x5a1f}")) ["NOT", "{0x5a1f}"] := by
    have tight : ∀ connective, rank connective < 2 := by
      intro connective
      cases connective <;> decide
    exact .inl (.negation tight (.installed (by decide)))
  have truth : Expresses rank (.constant true) ["TRUE"] := .inl (.constant true)
  have expressed : ∀ m ∈ modules, ∀ expression, m.DepexApplies "X64" .dxeDriver expression →
      ∃ condition, Expresses rank condition (depexValues expression) := by
    have all : ∀ m ∈ modules, ∀ values ∈ (m.applicableDepex "X64" .dxeDriver).map depexValues,
        values ∈ [["{0x9991}", "OR", "{0x8e3b}", "END"], ["NOT", "{0x5a1f}"], ["TRUE"]] := by decide
    intro m member expression applies
    have listed := all m member _ (List.mem_map_of_mem (mem_applicableDepex.2 applies))
    simp only [List.mem_cons, List.not_mem_nil, or_false] at listed
    rcases listed with same | same | same
    · exact ⟨_, same ▸ choice⟩
    · exact ⟨_, same ▸ refusal⟩
    · exact ⟨_, same ▸ truth⟩
  have merges : conditionalDriver.mergesDepex = true := by decide
  have done : conditionalDriver.mergedDepex [unconditionalLibrary] "X64" = some merged := by decide
  obtain ⟨_, ok, -, means⟩ := mergedDepex_conjunction rank merges expressed
  obtain rfl := Option.some.inj (done.symm.trans ok)
  obtain ⟨whole, spells, holds⟩ := means (by decide)
  exact ⟨expressed, done, whole, (spells whole).2 rfl, holds⟩

end Module

end UefiBuild
