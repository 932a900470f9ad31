import Mathlib.Data.List.Nodup
import Mathlib.Data.List.Perm.Basic
import UefiBuild.Pcd.Layout

namespace UefiBuild

structure ModuleUse where
  module : SourcePath
  type : ModuleType
  pcds : List Pcd

namespace PcdLayout

def collectAll (uses : List ModuleUse) : PcdLayout :=
  uses.foldl (fun layout use => layout.collect use.module use.type use.pcds) {}

def gathered (uses : List ModuleUse) (inOrder : Bool) : PcdLayout :=
  if inOrder then (collectAll uses).ordered else collectAll uses

def usedPcds (uses : List ModuleUse) : List Pcd := uses.flatMap ModuleUse.pcds

def ids (layout : PcdLayout) (dynamic : Bool) : List PcdId :=
  if dynamic then layout.dynamic.map (·.pcd.id) else layout.fixed.map Pcd.id

theorem map_id_placeDynamic (pcd : Pcd) (phase : Phase) (items : List DynamicPcd) :
    (placeDynamic pcd phase items).map (·.pcd.id) = addNew (items.map (·.pcd.id)) pcd.id := by
  induction items with
  | nil => rfl
  | cons item rest ih =>
    unfold addNew at ih ⊢
    by_cases same : item.pcd.id = pcd.id
    · by_cases pei : phase = .pei <;> simp [placeDynamic, same, pei]
    · have other : ¬ pcd.id = item.pcd.id := fun h => same h.symm
      simp only [placeDynamic, same, ite_false, List.map_cons, ih, List.mem_cons, other, false_or]
      split <;> rfl

theorem dynamic_noteSize (layout : PcdLayout) (module : SourcePath) (pcd : Pcd) :
    (layout.noteSize module pcd).dynamic = layout.dynamic := by
  unfold noteSize
  split <;> rfl

theorem fixed_noteSize (layout : PcdLayout) (module : SourcePath) (pcd : Pcd) :
    (layout.noteSize module pcd).fixed = layout.fixed := by
  unfold noteSize
  split <;> rfl

theorem ids_noteSize (layout : PcdLayout) (module : SourcePath) (pcd : Pcd) (dynamic : Bool) :
    (layout.noteSize module pcd).ids dynamic = layout.ids dynamic := by
  rw [ids, ids, dynamic_noteSize, fixed_noteSize]

theorem ids_place (layout : PcdLayout) (phase : Phase) (pcd : Pcd) (dynamic : Bool) :
    (layout.place phase pcd).ids dynamic =
      if pcd.isDynamic = dynamic then addNew (layout.ids dynamic) pcd.id else layout.ids dynamic := by
  unfold place
  cases kind : pcd.isDynamic with
  | true => cases dynamic <;> simp [ids, map_id_placeDynamic]
  | false =>
    have known : layout.fixed.any (·.id = pcd.id) = true ↔ pcd.id ∈ layout.fixed.map Pcd.id := by
      simp
    by_cases present : pcd.id ∈ layout.fixed.map Pcd.id
    · cases dynamic <;> simp [ids, addNew, known.2 present, present]
    · have new := Bool.eq_false_iff.2 fun found => present (known.1 found)
      cases dynamic <;> simp [ids, addNew, new, present]

theorem ids_collect (layout : PcdLayout) (module : SourcePath) (type : ModuleType) (pcds : List Pcd)
    (dynamic : Bool) :
    (layout.collect module type pcds).ids dynamic =
      ((pcds.filter (·.isDynamic = dynamic)).map Pcd.id).foldl addNew (layout.ids dynamic) := by
  induction pcds generalizing layout with
  | nil => rfl
  | cons pcd rest ih =>
    have first := ih ((layout.noteSize module pcd).place (.ofModule type) pcd)
    rw [ids_place, ids_noteSize] at first
    by_cases kind : pcd.isDynamic = dynamic
    · rw [if_pos kind] at first
      simpa [collect, kind] using first
    · rw [if_neg kind] at first
      simpa [collect, kind] using first

theorem nodup_ids_collect {layout : PcdLayout} {dynamic : Bool} (nodup : (layout.ids dynamic).Nodup)
    (module : SourcePath) (type : ModuleType) (pcds : List Pcd) :
    ((layout.collect module type pcds).ids dynamic).Nodup := by
  rw [ids_collect, foldl_addNew]
  refine List.nodup_append'.2 ⟨nodup, (nodup_distinct _).filter _, fun id known new => ?_⟩
  simpa [known] using (List.mem_filter.1 new).2

theorem mem_placeDynamic {pcd : Pcd} {phase : Phase} {items : List DynamicPcd} {item : DynamicPcd}
    (member : item ∈ placeDynamic pcd phase items) : item.pcd = pcd ∨ item ∈ items := by
  induction items with
  | nil =>
    rw [List.mem_singleton.1 member]
    exact .inl rfl
  | cons first rest ih =>
    rw [placeDynamic] at member
    split at member
    · rcases List.mem_cons.1 member with same | later
      · rw [same]
        split
        · exact .inl rfl
        · exact .inr (by simp)
      · exact .inr (List.mem_cons_of_mem _ later)
    · rcases List.mem_cons.1 member with same | later
      · exact .inr (by simp [same])
      · exact (ih later).imp_right (List.mem_cons_of_mem _)

theorem mem_dynamic_place {layout : PcdLayout} {phase : Phase} {pcd : Pcd} {item : DynamicPcd}
    (member : item ∈ (layout.place phase pcd).dynamic) : item.pcd = pcd ∨ item ∈ layout.dynamic := by
  unfold place at member
  split at member
  · exact mem_placeDynamic member
  · split at member <;> exact .inr member

theorem mem_dynamic_collect {layout : PcdLayout} {module : SourcePath} {type : ModuleType}
    {pcds : List Pcd} {item : DynamicPcd} (member : item ∈ (layout.collect module type pcds).dynamic) :
    item ∈ layout.dynamic ∨ item.pcd ∈ pcds := by
  induction pcds generalizing layout with
  | nil => exact .inl member
  | cons pcd rest ih =>
    rcases ih member with placed | later
    · rcases mem_dynamic_place placed with same | old
      · exact .inr (by simp [same])
      · exact .inl (dynamic_noteSize layout module pcd ▸ old)
    · exact .inr (List.mem_cons_of_mem _ later)

theorem ids_collectAll (uses : List ModuleUse) (dynamic : Bool) :
    (collectAll uses).ids dynamic =
      distinct (((usedPcds uses).filter (·.isDynamic = dynamic)).map Pcd.id) := by
  have run : ∀ layout : PcdLayout,
      (uses.foldl (fun layout use => layout.collect use.module use.type use.pcds) layout).ids dynamic =
        (((usedPcds uses).filter (·.isDynamic = dynamic)).map Pcd.id).foldl addNew
          (layout.ids dynamic) := by
    induction uses with
    | nil => exact fun _ => rfl
    | cons use rest ih =>
      intro layout
      rw [List.foldl_cons, ih, ids_collect]
      simp [usedPcds]
  have empty : ({} : PcdLayout).ids dynamic = [] := by cases dynamic <;> rfl
  rw [collectAll, run, foldl_addNew, empty]
  simp

theorem find?_of_nodup_map {α β : Type} [DecidableEq β] {key : α → β} {items : List α}
    (nodup : (items.map key).Nodup) {item : α} (member : item ∈ items) :
    items.find? (fun other => key other = key item) = some item := by
  cases found : items.find? fun other => key other = key item with
  | none => simpa using List.find?_eq_none.1 found item member
  | some first =>
    have same : key first = key item := by simpa using List.find?_some found
    rw [List.inj_on_of_nodup_map nodup (List.mem_of_find?_eq_some found) member same]

theorem perm_flatMap_filter {α β : Type} [DecidableEq β] (group : α → β) (groups : List β)
    (distinctGroups : groups.Nodup) (items : List α) (all : ∀ a ∈ items, group a ∈ groups) :
    (groups.flatMap fun wanted => items.filter (group · = wanted)).Perm items := by
  induction groups generalizing items with
  | nil =>
    have none : items = [] := List.eq_nil_iff_forall_not_mem.2 fun a member => by
      simpa using all a member
    simp [none]
  | cons first rest ih =>
    obtain ⟨absent, others⟩ := List.nodup_cons.1 distinctGroups
    have left := ih others (items.filter (group · ≠ first)) fun a member => by
      obtain ⟨member, other⟩ := List.mem_filter.1 member
      exact (List.mem_cons.1 (all a member)).resolve_left (by simpa using other)
    have same : (rest.flatMap fun wanted => (items.filter (group · ≠ first)).filter (group · = wanted)) =
        rest.flatMap fun wanted => items.filter (group · = wanted) := by
      refine List.flatMap_congr fun wanted member => ?_
      rw [List.filter_filter]
      refine List.filter_congr fun a _ => ?_
      have other : wanted ≠ first := ne_of_mem_of_not_mem member absent
      by_cases found : group a = wanted <;> simp [found, other]
    rw [List.flatMap_cons, ← same]
    refine (left.append_left _).trans ?_
    simpa using List.filter_append_perm (group · = first) items

theorem dynamic_ordered (layout : PcdLayout) : layout.ordered.dynamic.Perm layout.dynamic := by
  have parts := perm_flatMap_filter (fun item : DynamicPcd => part item.pcd)
    [.wideText, .variable, .other] (by decide) layout.dynamic fun item _ => by cases part item.pcd <;> simp
  simpa [ordered] using parts

theorem ids_ordered (layout : PcdLayout) (dynamic : Bool) :
    (layout.ordered.ids dynamic).Perm (layout.ids dynamic) := by
  cases dynamic with
  | false => exact .refl _
  | true => exact (dynamic_ordered layout).map (·.pcd.id)

theorem nodup_ids_gathered (uses : List ModuleUse) (inOrder dynamic : Bool) :
    ((gathered uses inOrder).ids dynamic).Nodup := by
  have collected : ((collectAll uses).ids dynamic).Nodup := by
    rw [ids_collectAll]
    exact nodup_distinct _
  cases inOrder with
  | false => exact collected
  | true => exact (ids_ordered _ dynamic).nodup_iff.2 collected

theorem mem_ids_gathered {uses : List ModuleUse} {inOrder dynamic : Bool} {id : PcdId} :
    id ∈ (gathered uses inOrder).ids dynamic ↔
      ∃ pcd ∈ usedPcds uses, pcd.isDynamic = dynamic ∧ pcd.id = id := by
  have collected : id ∈ (collectAll uses).ids dynamic ↔
      ∃ pcd ∈ usedPcds uses, pcd.isDynamic = dynamic ∧ pcd.id = id := by
    simp [ids_collectAll, mem_distinct, and_assoc]
  cases inOrder with
  | false => exact collected
  | true => exact (ids_ordered _ dynamic).mem_iff.trans collected

end PcdLayout

end UefiBuild
