import UefiBuild.Proofs.Depex.Joining

namespace UefiBuild.Module

variable {arch : String} {type : ModuleType}

theorem length_joinDepex (tokens expression : List String) :
    tokens.length + (joinDepex [] expression).length ≤ (joinDepex tokens expression).length := by
  rw [joinDepex_nil, joinDepex_eq, joinWords]
  simp only [List.length_append, List.length_cons]
  omega

theorem joinDepex_nil_ne_nil (expression : List String) : 0 < (joinDepex [] expression).length := by
  rw [joinDepex_nil]
  simp

theorem length_foldl_joinDepex (expressions : List (List String)) (tokens : List String) :
    tokens.length ≤ (expressions.foldl joinDepex tokens).length ∧
      ∀ expression ∈ expressions, tokens.length + (joinDepex [] expression).length ≤
        (expressions.foldl joinDepex tokens).length := by
  induction expressions generalizing tokens with
  | nil => exact ⟨Nat.le_refl _, nofun⟩
  | cons first rest ih =>
    obtain ⟨longer, each⟩ := ih (joinDepex tokens first)
    have here := length_joinDepex tokens first
    rw [List.foldl_cons]
    refine ⟨by omega, fun expression member => ?_⟩
    rcases List.mem_cons.1 member with rfl | later
    · omega
    · have there := each expression later
      omega

theorem foldl_joinDepex_eq_alone_iff {expressions : List (List String)} {expression : List String}
    (member : expression ∈ expressions) :
    expressions.foldl joinDepex [] = joinDepex [] expression ↔ expressions = [expression] := by
  constructor
  · intro alone
    obtain _ | ⟨first, _ | ⟨second, rest⟩⟩ := expressions
    · cases member
    · rw [List.mem_singleton.1 member]
    · obtain ⟨-, each⟩ := length_foldl_joinDepex (second :: rest) (joinDepex [] first)
      have secondAfter := each second (by simp)
      have firstSome := joinDepex_nil_ne_nil first
      have secondSome := joinDepex_nil_ne_nil second
      rw [List.foldl_cons] at alone
      rw [alone] at each secondAfter
      rcases List.mem_cons.1 member with rfl | later
      · omega
      · have there := each expression later
        omega
  · rintro rfl
    rfl

theorem exists_hasOrdering {modules : List Module}
    (ordering : (((joinedDepex arch type modules).map depexValues).foldl joinDepex []).any isOrdering =
      true) :
    ∃ before orderer after, modules = before ++ orderer :: after ∧
      (∀ earlier ∈ before, hasOrdering arch type earlier = false) ∧
      hasOrdering arch type orderer = true := by
  rcases upToFirst_cases (hasOrdering arch type) modules with none | found
  · rw [any_isOrdering_foldl] at ordering
    obtain ⟨values, listed, ordered⟩ := List.any_eq_true.1 ordering
    obtain ⟨expression, joined, rfl⟩ := List.mem_map.1 listed
    rw [joinedDepex, upToFirst_of_none none] at joined
    obtain ⟨module, member, applicable⟩ := List.mem_flatMap.1 joined
    have orders : hasOrdering arch type module = true := List.any_eq_true.2 ⟨expression, applicable, ordered⟩
    rw [none module member] at orders
    cases orders
  · exact found

theorem applicableDepex_ne_nil {module : Module} (ordering : hasOrdering arch type module = true) :
    module.applicableDepex arch type ≠ [] := by
  intro empty
  rw [hasOrdering, empty] at ordering
  cases ordering

/-- An expression with an ordering comes with those of its own module and of all modules before it. It
stands alone exactly if there are no others. -/
theorem mergedDepex_ordering_alone_iff {module : Module} {libraries : List Module} {arch : String}
    {merged : List String} (done : module.mergedDepex libraries arch = some merged)
    (ordering : merged.any isOrdering = true) :
    let applicable (m : Module) : List (List DepexToken) := m.applicableDepex arch module.type
    ∃ before orderer after, module :: libraries = before ++ orderer :: after ∧
      (∀ earlier ∈ before, hasOrdering arch module.type earlier = false) ∧
      hasOrdering arch module.type orderer = true ∧
      let joined := before.flatMap applicable ++ applicable orderer
      merged = (joined.map depexValues).foldl joinDepex [] ∧
      ((∃ expression ∈ joined, merged = joinDepex [] (depexValues expression)) ↔
        (∀ earlier ∈ before, applicable earlier = []) ∧ ∃ expression, applicable orderer = [expression]) := by
  intro applicable
  rw [mergedDepex_eq] at done
  split at done
  · obtain rfl := Option.some.inj done
    obtain ⟨before, orderer, after, split, none, here⟩ := exists_hasOrdering ordering
    have joined : joinedDepex arch module.type (module :: libraries) =
        before.flatMap applicable ++ applicable orderer := by
      rw [joinedDepex, split, upToFirst_append none here, List.flatMap_append, List.flatMap_singleton]
    refine ⟨before, orderer, after, split, none, here, by rw [joined], ?_⟩
    rw [joined]
    constructor
    · rintro ⟨expression, member, alone⟩
      have single := (foldl_joinDepex_eq_alone_iff (List.mem_map_of_mem member)).1 alone
      have one : (before.flatMap applicable ++ applicable orderer).length = 1 := by
        simpa using congrArg List.length single
      have own : 0 < (applicable orderer).length :=
        List.length_pos_iff.2 (applicableDepex_ne_nil here)
      rw [List.length_append] at one
      have earlier : before.flatMap applicable = [] := List.length_eq_zero_iff.1 (by omega)
      exact ⟨List.flatMap_eq_nil_iff.1 earlier, List.length_eq_one_iff.1 (by omega)⟩
    · rintro ⟨empty, expression, own⟩
      rw [List.flatMap_eq_nil_iff.2 empty, own]
      exact ⟨expression, by simp, rfl⟩
  · cases done

def orderingLibrary : Module where
  file := .ofText "Lib.inf"
  arch := "X64"
  type := .base
  buildType := "BASE"
  depex := { entries := .ofList [
    (["COMMON", "COMMON"], [⟨"AFTER", "AFTER"⟩, ⟨"gLibProtocolGuid", "{0x8e3b}"⟩])] }

def silentDriver : Module where
  file := .ofText "Mod.inf"
  arch := "X64"
  type := .dxeDriver
  buildType := "DXE_DRIVER"

theorem mergedDepex_silentDriver :
    let applicable (m : Module) : List (List DepexToken) := m.applicableDepex "X64" .dxeDriver
    let merged := ["(", "AFTER", "{0x8e3b}", ")"]
    silentDriver.mergedDepex [orderingLibrary] "X64" = some merged ∧ merged.any isOrdering = true ∧
      ∃ before orderer after, [silentDriver, orderingLibrary] = before ++ orderer :: after ∧
        hasOrdering "X64" .dxeDriver orderer = true ∧
        ((∃ expression ∈ before.flatMap applicable ++ applicable orderer,
            merged = joinDepex [] (depexValues expression)) ↔
          (∀ earlier ∈ before, applicable earlier = []) ∧
            ∃ expression, applicable orderer = [expression]) := by
  intro applicable merged
  have done : silentDriver.mergedDepex [orderingLibrary] "X64" = some merged := by decide
  have ordering : merged.any isOrdering = true := by decide
  obtain ⟨before, orderer, after, split, -, here, -, alone⟩ := mergedDepex_ordering_alone_iff done ordering
  exact ⟨done, ordering, before, orderer, after, split, here, alone⟩

def orderedDriver : Module :=
  { silentDriver with
    depex := { entries := .ofList [
      (["X64", "DXE_DRIVER"], [⟨"BEFORE", "BEFORE"⟩, ⟨"gTestProtocolGuid", "{0x5a1f}"⟩]),
      (["COMMON", "COMMON"], [⟨"gTestPpiGuid", "{0x9991}"⟩])] } }

/-- The condition is joined to the ordering in spite of the stop. -/
theorem mergedDepex_orderedDriver :
    let merged := ["(", "BEFORE", "{0x5a1f}", ")", "AND", "(", "{0x9991}", ")"]
    orderedDriver.mergedDepex [] "X64" = some merged ∧ merged.any isOrdering = true ∧
      ¬ ∃ expression ∈ orderedDriver.applicableDepex "X64" .dxeDriver,
        merged = joinDepex [] (depexValues expression) := by
  decide

end UefiBuild.Module
