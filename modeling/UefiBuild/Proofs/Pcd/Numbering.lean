import Mathlib.Data.List.Nodup
import UefiBuild.Proofs.Pcd.Collection

namespace UefiBuild.PcdLayout

theorem perm_numbered (layout : PcdLayout) :
    layout.numbered.Perm (layout.ids true ++ layout.ids false) := by
  have phases := perm_flatMap_filter DynamicPcd.phase [.pei, .dxe] (by decide) layout.dynamic
    fun item _ => by cases item.phase <;> simp
  have dynamic := phases.map (·.pcd.id)
  simpa [numbered, ids] using dynamic.append_right (layout.fixed.map Pcd.id)

theorem keys_tokenNumbers (layout : PcdLayout) :
    layout.tokenNumbers.keys = distinct layout.numbered := by
  rw [tokenNumbers, Table.keys_ofList, List.zipIdx_map_fst]

theorem getElem?_of_mem_tokenNumbers {layout : PcdLayout} {id : PcdId} {number : Nat}
    (entry : (id, number) ∈ layout.tokenNumbers.entries) :
    ∃ place, number = place + 1 ∧ layout.numbered[place]? = some id := by
  obtain ⟨place, found⟩ := List.mem_iff_getElem?.1 (Table.mem_ofList entry)
  rw [List.getElem?_zipIdx] at found
  obtain ⟨other, here, same⟩ := Option.map_eq_some_iff.1 found
  obtain ⟨rfl, rfl⟩ := Prod.mk.inj same
  exact ⟨place, Nat.add_comm 1 place, here⟩

theorem nodup_values_tokenNumbers (layout : PcdLayout) : layout.tokenNumbers.values.Nodup := by
  refine List.Nodup.map_on ?_ layout.tokenNumbers.nodup_entries
  rintro ⟨id, number⟩ entry ⟨other, _⟩ otherEntry rfl
  obtain ⟨place, rfl, here⟩ := getElem?_of_mem_tokenNumbers entry
  obtain ⟨_, same, there⟩ := getElem?_of_mem_tokenNumbers otherEntry
  obtain rfl := Nat.succ.inj same
  rw [Option.some.inj (here.symm.trans there)]

/-- The item that comes last has the highest number, also if it came before. -/
theorem length_numbered_mem_values {layout : PcdLayout} (filled : layout.numbered ≠ []) :
    layout.numbered.length ∈ layout.tokenNumbers.values := by
  obtain ⟨front, last, order⟩ := (List.eq_nil_or_concat' layout.numbered).resolve_left filled
  refine Table.mem_values.2 ⟨last, ?_⟩
  rw [tokenNumbers, order, List.zipIdx_append, List.zipIdx_singleton, Table.get?_ofList_append,
    List.length_append, List.length_singleton, Nat.add_comm]

theorem entries_tokenNumbers {layout : PcdLayout} (nodup : layout.numbered.Nodup) :
    layout.tokenNumbers.entries = layout.numbered.zipIdx 1 :=
  Table.entries_ofList (by rwa [List.zipIdx_map_fst])

theorem values_tokenNumbers_perm_iff (layout : PcdLayout) :
    layout.tokenNumbers.values.Perm (List.range' 1 (distinct layout.numbered).length) ↔
      layout.numbered.Nodup := by
  constructor
  · intro complete
    by_cases empty : layout.numbered = []
    · simp [empty]
    · -- The place of the last item is among the numbers, so the order is no longer than its items.
      have highest := complete.mem_iff.1 (length_numbered_mem_values empty)
      rw [List.mem_range'_1] at highest
      have bound := length_distinct_le layout.numbered
      exact nodup_of_length_distinct (by omega)
  · intro nodup
    rw [distinct_of_nodup nodup, Table.values, entries_tokenNumbers nodup, List.zipIdx_map_snd]

theorem nodup_numbered_gathered_iff (uses : List ModuleUse) (inOrder : Bool) :
    (gathered uses inOrder).numbered.Nodup ↔
      ∀ pcd ∈ usedPcds uses, ∀ other ∈ usedPcds uses,
        pcd.id = other.id → pcd.isDynamic = other.isDynamic := by
  rw [(perm_numbered _).nodup_iff, List.nodup_append']
  constructor
  · rintro ⟨_, _, apart⟩
    have differ : ∀ pcd ∈ usedPcds uses, ∀ other ∈ usedPcds uses,
        pcd.isDynamic = true → other.isDynamic = false → pcd.id ≠ other.id :=
      fun pcd used other usedToo dynamic fixed same =>
        apart (mem_ids_gathered.2 ⟨pcd, used, dynamic, rfl⟩)
          (mem_ids_gathered.2 ⟨other, usedToo, fixed, same.symm⟩)
    intro pcd used other usedToo same
    cases kind : pcd.isDynamic <;> cases otherKind : other.isDynamic
    · rfl
    · exact absurd same.symm (differ other usedToo pcd used otherKind kind)
    · exact absurd same (differ pcd used other usedToo kind otherKind)
    · rfl
  · intro separate
    refine ⟨nodup_ids_gathered uses inOrder true, nodup_ids_gathered uses inOrder false, ?_⟩
    intro id dynamic fixed
    obtain ⟨pcd, used, kind, rfl⟩ := mem_ids_gathered.1 dynamic
    obtain ⟨other, usedToo, otherKind, same⟩ := mem_ids_gathered.1 fixed
    have agree := separate pcd used other usedToo same.symm
    rw [kind, otherKind] at agree
    cases agree

theorem distinct_numbered_gathered (uses : List ModuleUse) (inOrder : Bool) :
    (distinct (gathered uses inOrder).numbered).Perm (distinct ((usedPcds uses).map Pcd.id)) := by
  refine (List.perm_ext_iff_of_nodup (nodup_distinct _) (nodup_distinct _)).2 fun id => ?_
  rw [mem_distinct, mem_distinct, (perm_numbered _).mem_iff, List.mem_append, mem_ids_gathered,
    mem_ids_gathered, List.mem_map]
  constructor
  · rintro (⟨pcd, used, _, same⟩ | ⟨pcd, used, _, same⟩) <;> exact ⟨pcd, used, same⟩
  · rintro ⟨pcd, used, same⟩
    cases kind : pcd.isDynamic with
    | true => exact .inl ⟨pcd, used, kind, same⟩
    | false => exact .inr ⟨pcd, used, kind, same⟩

/-- Every item in use has a number of its own. The numbers leave no gap exactly if no item is used
both as a dynamic one and as one that is not. -/
theorem tokenNumbers_complete_iff (uses : List ModuleUse) (inOrder : Bool) :
    let numbers := (gathered uses inOrder).tokenNumbers
    let known := distinct ((usedPcds uses).map Pcd.id)
    numbers.keys.Perm known ∧ numbers.values.Nodup ∧
      (numbers.values.Perm (List.range' 1 known.length) ↔
        ∀ pcd ∈ usedPcds uses, ∀ other ∈ usedPcds uses,
          pcd.id = other.id → pcd.isDynamic = other.isDynamic) := by
  have known := distinct_numbered_gathered uses inOrder
  refine ⟨?_, nodup_values_tokenNumbers _, ?_⟩
  · rwa [keys_tokenNumbers]
  · rw [← known.length_eq, values_tokenNumbers_perm_iff, nodup_numbered_gathered_iff]

def mixedUse : List ModuleUse :=
  let mode : PcdId := ⟨"Mode", "Space"⟩
  let size : PcdId := ⟨"Size", "Space"⟩
  [⟨.ofText "Pei.inf", .peim,
      [{ id := mode, access? := some .dynamic }, { id := size, access? := some .dynamic }]⟩,
    ⟨.ofText "App.inf", .uefiApplication, [{ id := mode, access? := some .fixedAtBuild }]⟩]

/-- An item that is used both as a dynamic one and as a fixed one takes up two numbers, so that no item has
the first one. -/
theorem tokenNumbers_mixedUse :
    ((gathered mixedUse false).tokenNumbers.entries =
        [(⟨"Mode", "Space"⟩, 3), (⟨"Size", "Space"⟩, 2)]) ∧
      (distinct ((usedPcds mixedUse).map Pcd.id)).length = 2 ∧
      ¬ (gathered mixedUse false).tokenNumbers.values.Perm (List.range' 1 2) := by
  decide

end UefiBuild.PcdLayout
