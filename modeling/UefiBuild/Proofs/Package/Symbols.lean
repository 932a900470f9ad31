import UefiBuild.Package
import UefiBuild.Proofs.Wildcard

namespace UefiBuild

section Keys

variable {κ α : Type} [DecidableEq κ]

theorem keys_ofList_filterMap (names : List κ) (find : κ → Option α) :
    (Table.ofList ((distinct names).filterMap fun name => (find name).map (name, ·))).keys =
      (distinct names).filter fun name => (find name).isSome := by
  have kept (l : List κ) : (l.filterMap fun name => (find name).map (name, ·)).map Prod.fst =
      l.filter fun name => (find name).isSome := by
    rw [List.map_filterMap, ← List.filterMap_eq_filter]
    refine List.filterMap_congr fun name _ => ?_
    cases found : find name <;> simp [Option.guard, found]
  rw [Table.keys_ofList, kept, distinct_of_nodup ((nodup_distinct names).filter _)]

theorem filter_distinct_eq_self_iff {names : List κ} {p : κ → Prop} [DecidablePred p] :
    (distinct names).filter p = distinct names ↔ ∀ name ∈ names, p name := by
  simp [List.filter_eq_self, mem_distinct]

theorem keys_lookedUp (records : List Record) (arch : String) (name : Record → κ) (parts : κ → List String)
    (value : Record → α) :
    let filed : WildcardTable α :=
      records.foldl (fun t record => t.insert (record.arch :: parts (name record)) (value record)) {}
    (Table.ofList ((distinct (records.map name)).filterMap fun name =>
        (filed.resolve? (arch :: parts name)).map (name, ·))).keys =
      (distinct (records.map name)).filter fun wanted => ∃ record ∈ records,
        WildcardTable.Covers "COMMON" (record.arch :: parts (name record)) (arch :: parts wanted) := by
  intro filed
  have rows : filed = .filed "COMMON" (records.map fun record =>
      (record.arch :: parts (name record), value record)) := by
    rw [WildcardTable.filed, List.foldl_map]
  rw [keys_ofList_filterMap, rows]
  refine List.filter_congr fun wanted _ => ?_
  rw [Bool.eq_iff_iff, WildcardTable.isSome_resolve?_filed, decide_eq_true_iff]
  simp

end Keys

/-- The architecture of a row, letter by letter, or the one that stands for all. A store takes rows to
apply to an architecture also where they spell it with other capitals. -/
def Record.Spells (record : Record) (arch : String) : Prop := record.arch = arch ∨ record.arch = "COMMON"

instance (record : Record) (arch : String) : Decidable (record.Spells arch) :=
  inferInstanceAs (Decidable (_ ∨ _))

section Tables

variable (records : List Record) (arch : String)

/-- A name that some row of the architecture gives a value, or a row that leaves the name open. -/
def NameSpelled (name : String) : Prop :=
  ∃ record ∈ records, record.Spells arch ∧ (record.value 0 = name ∨ record.value 0 = "COMMON")

def ItemSpelled (id : PcdId) : Prop :=
  ∃ record ∈ records, record.Spells arch ∧ (record.pcdId.name = id.name ∨ record.pcdId.name = "COMMON") ∧
    (record.pcdId.space = id.space ∨ record.pcdId.space = "COMMON")

instance : DecidablePred (NameSpelled records arch) := fun _ => inferInstanceAs (Decidable (∃ _ ∈ _, _))

instance : DecidablePred (ItemSpelled records arch) := fun _ => inferInstanceAs (Decidable (∃ _ ∈ _, _))

theorem keys_symbolTable (store : RecordStore) (file : SourcePath) (place : Section) :
    (symbolTable store file place arch).keys =
      (distinct ((store.query file place (some arch) none).map (·.value 0))).filter
        (NameSpelled (store.query file place (some arch) none) arch) := by
  refine (keys_lookedUp _ arch (·.value 0) ([·]) (·.value 1)).trans (List.filter_congr fun name _ => ?_)
  rw [decide_eq_decide]
  simp [WildcardTable.Covers, NameSpelled, Record.Spells]

theorem keys_pcdSettings :
    (pcdSettings records arch).keys =
      (distinct (records.map Record.pcdId)).filter (ItemSpelled records arch) := by
  refine (keys_lookedUp records arch Record.pcdId (fun id => [id.name, id.space]) Record.setting).trans
    (List.filter_congr fun id _ => ?_)
  rw [decide_eq_decide]
  simp [WildcardTable.Covers, ItemSpelled, Record.Spells]

/-- The names that rows declare for an architecture are kept in the order of the rows, as far as rows of
that very spelling give them a value. None is lost exactly if this is so for every row that the store
returns. -/
theorem declared_names_kept_iff (store : RecordStore) (file : SourcePath) (place : Section) :
    let records := store.query file place (some arch) none
    let names := distinct (records.map (·.value 0))
    let items := distinct (records.map Record.pcdId)
    ((symbolTable store file place arch).keys = names.filter (NameSpelled records arch) ∧
      ((symbolTable store file place arch).keys = names ↔
        ∀ record ∈ records, NameSpelled records arch (record.value 0))) ∧
      (pcdSettings records arch).keys = items.filter (ItemSpelled records arch) ∧
      ((pcdSettings records arch).keys = items ↔
        ∀ record ∈ records, ItemSpelled records arch record.pcdId) := by
  intro records names items
  have symbols := keys_symbolTable arch store file place
  have settings := keys_pcdSettings records arch
  refine ⟨⟨symbols, ?_⟩, settings, ?_⟩
  · rw [symbols, filter_distinct_eq_self_iff, List.forall_mem_map]
  · rw [settings, filter_distinct_eq_self_iff, List.forall_mem_map]

def mixedCapitals : RecordStore :=
  let rows : List (Section × Record) :=
    [(.guids, { values := ["gCommonGuid", "{0x1}"] }),
      (.guids, { values := ["gOtherGuid", "{0x2}"], arch := "x64" }),
      (.pcds .dynamic, { values := ["gSpace", "Mode", "0x1|UINT8|0x5"], arch := "x64" })]
  rows.foldl (fun store row => (store.push (.ofText "T.dec") row.1 row.2).1) {}

theorem tables_mixedCapitals :
    let symbols := mixedCapitals.query (.ofText "T.dec") .guids (some "X64") none
    let settings := mixedCapitals.query (.ofText "T.dec") (.pcds .dynamic) (some "X64") none
    distinct (symbols.map (·.value 0)) = ["gCommonGuid", "gOtherGuid"] ∧
      (symbolTable mixedCapitals (.ofText "T.dec") .guids "X64").keys = ["gCommonGuid"] ∧
      distinct (settings.map Record.pcdId) = [⟨"Mode", "gSpace"⟩] ∧
      (pcdSettings settings "X64").keys = [] := by
  decide +kernel

end Tables

end UefiBuild
