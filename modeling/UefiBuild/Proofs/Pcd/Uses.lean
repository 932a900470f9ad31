import UefiBuild.Proofs.Pcd.Collection

namespace UefiBuild.PcdLayout

def history (uses : List ModuleUse) : List (Phase × Pcd) :=
  uses.flatMap fun use => use.pcds.map (Phase.ofModule use.type, ·)

def usesOf (taken : List (Phase × Pcd)) (dynamic : Bool) (id : PcdId) : List (Phase × Pcd) :=
  taken.filter fun use => use.2.isDynamic = dynamic ∧ use.2.id = id

/-- The last use in the PEI phase, or the first use where there is none in that phase. -/
def deciding? (uses : List (Phase × Pcd)) : Option (Phase × Pcd) :=
  (uses.filter (·.1 = .pei)).getLast?.or uses.head?

def placed (use : Phase × Pcd) : DynamicPcd := ⟨use.2, use.1⟩

/-- What a layout says of each item is what the deciding use of it says. -/
structure Holds (layout : PcdLayout) (taken : List (Phase × Pcd)) : Prop where
  dynamic : ∀ id, layout.dynamic.find? (·.pcd.id = id) = (deciding? (usesOf taken true id)).map placed
  fixed : ∀ id, layout.fixed.find? (·.id = id) = (usesOf taken false id).head?.map Prod.snd

variable {layout : PcdLayout} {taken : List (Phase × Pcd)} {phase : Phase} {pcd : Pcd} {id : PcdId}

theorem usesOf_concat (taken : List (Phase × Pcd)) (phase : Phase) (pcd : Pcd) (dynamic : Bool)
    (id : PcdId) :
    usesOf (taken ++ [(phase, pcd)]) dynamic id =
      if pcd.isDynamic = dynamic ∧ pcd.id = id then usesOf taken dynamic id ++ [(phase, pcd)]
      else usesOf taken dynamic id := by
  rw [usesOf, List.filter_append]
  split
  · rename_i fits
    rw [List.filter_cons_of_pos (by simpa using fits), List.filter_nil]
    rfl
  · rename_i other
    rw [List.filter_cons_of_neg (by simpa using other), List.filter_nil, List.append_nil]
    rfl

theorem deciding?_concat (uses : List (Phase × Pcd)) (phase : Phase) (pcd : Pcd) :
    deciding? (uses ++ [(phase, pcd)]) =
      if phase = .pei then some (phase, pcd) else (deciding? uses).or (some (phase, pcd)) := by
  unfold deciding?
  rw [List.filter_append]
  by_cases pei : phase = .pei
  · simp [pei]
  · have skipped : [(phase, pcd)].filter (·.1 = .pei) = [] := by simp [pei]
    rw [skipped, List.append_nil, if_neg pei, Option.or_assoc]
    cases uses <;> rfl

theorem find?_placeDynamic (pcd : Pcd) (phase : Phase) (items : List DynamicPcd) (id : PcdId) :
    (placeDynamic pcd phase items).find? (·.pcd.id = id) =
      if pcd.id = id then
        if phase = .pei then some ⟨pcd, phase⟩ else (items.find? (·.pcd.id = id)).or (some ⟨pcd, phase⟩)
      else items.find? (·.pcd.id = id) := by
  induction items with
  | nil =>
    by_cases same : pcd.id = id <;> simp [placeDynamic, same]
  | cons item rest ih =>
    rw [placeDynamic]
    by_cases known : item.pcd.id = pcd.id
    · rw [if_pos known]
      by_cases same : pcd.id = id
      · by_cases pei : phase = .pei <;> simp [known, same, pei]
      · by_cases pei : phase = .pei <;> simp [known, same, pei]
    · rw [if_neg known, List.find?_cons, ih]
      by_cases here : item.pcd.id = id
      · have other : ¬ pcd.id = id := fun same => known (here.trans same.symm)
        simp [here, other]
      · simp [here]

theorem find?_fixed_place (layout : PcdLayout) (phase : Phase) (fixed : pcd.isDynamic = false) (id : PcdId) :
    (layout.place phase pcd).fixed.find? (·.id = id) =
      if pcd.id = id then (layout.fixed.find? (·.id = id)).or (some pcd)
      else layout.fixed.find? (·.id = id) := by
  rw [place, if_neg (by simp [fixed])]
  by_cases known : layout.fixed.any (·.id = pcd.id) = true
  · rw [if_pos known]
    split
    · rename_i same
      have found : (layout.fixed.find? (·.id = id)).isSome = true := by
        rw [List.find?_isSome]
        simpa [same] using known
      rw [Option.or_of_isSome found]
    · rfl
  · rw [if_neg known, List.find?_append]
    by_cases same : pcd.id = id <;> simp [same]

theorem Holds.step (holds : layout.Holds taken) (module : SourcePath) (phase : Phase) (pcd : Pcd) :
    ((layout.noteSize module pcd).place phase pcd).Holds (taken ++ [(phase, pcd)]) := by
  cases kind : pcd.isDynamic with
  | true =>
    have dynamic : ((layout.noteSize module pcd).place phase pcd).dynamic =
        placeDynamic pcd phase layout.dynamic := by
      rw [place, if_pos kind, dynamic_noteSize]
    have fixed : ((layout.noteSize module pcd).place phase pcd).fixed = layout.fixed := by
      rw [place, if_pos kind, fixed_noteSize]
    constructor
    · intro id
      rw [dynamic, find?_placeDynamic, holds.dynamic, usesOf_concat]
      by_cases same : pcd.id = id
      · have fits : pcd.isDynamic = true ∧ pcd.id = id := ⟨kind, same⟩
        rw [if_pos same, if_pos fits, deciding?_concat]
        split
        · rfl
        · cases deciding? (usesOf taken true id) <;> rfl
      · rw [if_neg same, if_neg fun fits => same fits.2]
    · intro id
      have other : ¬ (pcd.isDynamic = false ∧ pcd.id = id) := by simp [kind]
      rw [fixed, holds.fixed, usesOf_concat, if_neg other]
  | false =>
    have dynamic : ((layout.noteSize module pcd).place phase pcd).dynamic = layout.dynamic := by
      rw [place, kind, ← dynamic_noteSize layout module pcd]
      split
      · contradiction
      · split <;> rfl
    constructor
    · intro id
      have other : ¬ (pcd.isDynamic = true ∧ pcd.id = id) := by simp [kind]
      rw [dynamic, holds.dynamic, usesOf_concat, if_neg other]
    · intro id
      rw [find?_fixed_place _ _ kind, fixed_noteSize, holds.fixed, usesOf_concat]
      by_cases same : pcd.id = id
      · have fits : pcd.isDynamic = false ∧ pcd.id = id := ⟨kind, same⟩
        rw [if_pos same, if_pos fits]
        cases usesOf taken false id <;> rfl
      · rw [if_neg same, if_neg fun fits => same fits.2]

theorem Holds.collect (holds : layout.Holds taken) (module : SourcePath) (type : ModuleType)
    (pcds : List Pcd) :
    (layout.collect module type pcds).Holds (taken ++ pcds.map (Phase.ofModule type, ·)) := by
  induction pcds generalizing layout taken with
  | nil => simpa [PcdLayout.collect] using holds
  | cons pcd rest ih =>
    have later := ih (holds.step module (.ofModule type) pcd)
    rw [List.append_assoc] at later
    exact later

theorem holds_collectAll (uses : List ModuleUse) : (collectAll uses).Holds (history uses) := by
  have run : ∀ layout taken, Holds layout taken →
      (uses.foldl (fun layout use => layout.collect use.module use.type use.pcds) layout).Holds
        (taken ++ history uses) := by
    induction uses with
    | nil => simp [history]
    | cons use rest ih =>
      intro layout taken holds
      have later := ih _ _ (holds.collect use.module use.type use.pcds)
      rw [List.append_assoc] at later
      exact later
  have empty : Holds {} [] := ⟨fun _ => rfl, fun _ => rfl⟩
  exact run _ _ empty

theorem mem_usesOf_history {uses : List ModuleUse} {dynamic : Bool} {use : Phase × Pcd} :
    use ∈ usesOf (history uses) dynamic id ↔
      ∃ one ∈ uses, Phase.ofModule one.type = use.1 ∧ use.2 ∈ one.pcds ∧
        use.2.isDynamic = dynamic ∧ use.2.id = id := by
  obtain ⟨phase, pcd⟩ := use
  simp only [usesOf, history, List.mem_filter, List.mem_flatMap, List.mem_map, decide_eq_true_eq,
    Prod.mk.injEq]
  constructor
  · rintro ⟨⟨one, member, _, used, rfl, rfl⟩, kind, same⟩
    exact ⟨one, member, rfl, used, kind, same⟩
  · rintro ⟨one, member, rfl, used, kind, same⟩
    exact ⟨⟨one, member, pcd, used, rfl, rfl⟩, kind, same⟩

theorem ofModule_eq_pei_iff {type : ModuleType} :
    Phase.ofModule type = .pei ↔ type = .peim ∨ type = .peiCore := by
  cases type <;> decide

theorem phase_eq_pei_iff {uses : List (Phase × Pcd)} {use : Phase × Pcd}
    (decides : deciding? uses = some use) : use.1 = .pei ↔ ∃ other ∈ uses, other.1 = .pei := by
  have mem : use ∈ uses := by
    rcases Option.or_eq_some_iff.1 decides with last | ⟨_, first⟩
    · exact List.mem_of_mem_filter (List.mem_of_getLast? last)
    · exact List.mem_of_head? first
  constructor
  · exact fun pei => ⟨use, mem, pei⟩
  · rintro ⟨other, member, pei⟩
    rcases Option.or_eq_some_iff.1 decides with last | ⟨none, _⟩
    · simpa using List.of_mem_filter (List.mem_of_getLast? last)
    · have absent := List.filter_eq_nil_iff.1 (List.getLast?_eq_none_iff.1 none) other member
      simp [pei] at absent

/-- Dynamic items stand in the order of their first uses and are as the last use in the PEI phase has
them, or the first use where there is none; the others are as their first uses have them. -/
theorem collectAll_holds_deciding_uses (uses : List ModuleUse) :
    let layout := collectAll uses
    let used (dynamic : Bool) : List PcdId :=
      distinct (((usedPcds uses).filter (·.isDynamic = dynamic)).map Pcd.id)
    ((layout.ids true).Nodup ∧ layout.ids true = used true ∧
      ∀ item ∈ layout.dynamic,
        let itsUses := usesOf (history uses) true item.pcd.id
        (item.phase = .pei ↔ ∃ use ∈ uses, (use.type = .peim ∨ use.type = .peiCore) ∧
          ∃ pcd ∈ use.pcds, pcd.isDynamic = true ∧ pcd.id = item.pcd.id) ∧
        some item.pcd = ((itsUses.filter (·.1 = .pei)).getLast?.or itsUses.head?).map Prod.snd) ∧
      (layout.ids false).Nodup ∧ layout.ids false = used false ∧
      ∀ pcd ∈ layout.fixed,
        some pcd = (usesOf (history uses) false pcd.id).head?.map Prod.snd := by
  intro layout used
  have holds : layout.Holds (history uses) := holds_collectAll uses
  have nodup (dynamic : Bool) : (layout.ids dynamic).Nodup := nodup_ids_gathered uses false dynamic
  refine ⟨⟨nodup true, ids_collectAll uses true, fun item member => ?_⟩,
    nodup false, ids_collectAll uses false, fun pcd member => ?_⟩
  · intro itsUses
    have found := find?_of_nodup_map (nodup true) member
    rw [holds.dynamic] at found
    obtain ⟨use, decides, rfl⟩ := Option.map_eq_some_iff.1 found
    constructor
    · rw [placed, phase_eq_pei_iff decides]
      constructor
      · rintro ⟨other, listed, pei⟩
        obtain ⟨one, inList, phase, used, kind, same⟩ := mem_usesOf_history.1 listed
        exact ⟨one, inList, ofModule_eq_pei_iff.1 (phase.trans pei), other.2, used, kind, same⟩
      · rintro ⟨one, inList, type, pcd, used, kind, same⟩
        have pei := ofModule_eq_pei_iff.2 type
        exact ⟨(.pei, pcd), mem_usesOf_history.2 ⟨one, inList, pei, used, kind, same⟩, rfl⟩
    · change some use.2 = (deciding? _).map Prod.snd
      rw [decides]
      rfl
  · have found := find?_of_nodup_map (nodup false) member
    rw [holds.fixed] at found
    exact found.symm

end UefiBuild.PcdLayout
