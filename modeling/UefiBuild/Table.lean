namespace UefiBuild

universe u v w

section Lists

variable {κ : Type u} {α : Type v} [DecidableEq κ]

def distinct : List κ → List κ
  | [] => []
  | a :: rest => a :: (distinct rest).filter (· ≠ a)

theorem mem_distinct {a : κ} {l : List κ} : a ∈ distinct l ↔ a ∈ l := by
  induction l with
  | nil => simp [distinct]
  | cons b rest ih =>
    by_cases same : a = b <;> simp [distinct, ih, same]

theorem nodup_distinct (l : List κ) : (distinct l).Nodup := by
  induction l with
  | nil => simp [distinct]
  | cons b rest ih =>
    rw [distinct, List.nodup_cons]
    exact ⟨by simp, ih.sublist List.filter_sublist⟩

theorem distinct_of_nodup {l : List κ} (nodup : l.Nodup) : distinct l = l := by
  induction l with
  | nil => rfl
  | cons a rest ih =>
    obtain ⟨absent, others⟩ := List.nodup_cons.1 nodup
    rw [distinct, ih others, List.filter_eq_self.2]
    intro b member
    simpa using ne_of_mem_of_not_mem member absent

theorem length_distinct_le (l : List κ) : (distinct l).length ≤ l.length := by
  induction l with
  | nil => simp [distinct]
  | cons a rest ih =>
    have filtered := List.length_filter_le (· ≠ a) (distinct rest)
    simp only [distinct, List.length_cons]
    omega

theorem nodup_of_length_distinct {l : List κ} (same : (distinct l).length = l.length) : l.Nodup := by
  induction l with
  | nil => simp
  | cons a rest ih =>
    have filtered := List.length_filter_le (· ≠ a) (distinct rest)
    have bound := length_distinct_le rest
    simp only [distinct, List.length_cons, Nat.add_right_cancel_iff] at same
    have kept : (distinct rest).filter (· ≠ a) = distinct rest :=
      List.filter_eq_self.2 (List.length_filter_eq_length_iff.1 (by omega))
    refine List.nodup_cons.2 ⟨fun member => ?_, ih (by omega)⟩
    have left := kept ▸ mem_distinct.2 member
    simp at left

def addNew (l : List κ) (a : κ) : List κ := if a ∈ l then l else l ++ [a]

theorem foldl_addNew (known l : List κ) :
    l.foldl addNew known = known ++ (distinct l).filter (· ∉ known) := by
  induction l generalizing known with
  | nil => simp [distinct]
  | cons a rest ih =>
    rw [List.foldl_cons, ih, addNew, distinct]
    split
    · rename_i present
      rw [List.filter_cons_of_neg (by simpa using present), List.filter_filter]
      congr 1
      refine List.filter_congr fun b _ => ?_
      by_cases same : b = a
      · simp [same, present]
      · simp [same]
    · rename_i absent
      rw [List.filter_cons_of_pos (by simpa using absent), List.filter_filter, List.append_assoc,
        List.singleton_append]
      congr 2
      exact List.filter_congr fun b _ => by simp

theorem foldl_addNew_nil (l : List κ) : l.foldl addNew [] = distinct l := by
  rw [foldl_addNew]
  exact List.filter_eq_self.2 (by simp)

theorem map_foldl_firstOf (key : α → κ) (l known : List α) :
    (l.foldl (fun known a =>
      if known.any fun other => key other = key a then known else known ++ [a]) known).map key =
      (l.map key).foldl addNew (known.map key) := by
  induction l generalizing known with
  | nil => rfl
  | cons a rest ih =>
    have step : (if known.any fun other => key other = key a then known else known ++ [a]).map key =
        addNew (known.map key) (key a) := by
      simp only [addNew, List.any_eq_true, decide_eq_true_eq, List.mem_map]
      split <;> simp
    rw [List.foldl_cons, ih, step, List.map_cons, List.foldl_cons]

theorem distinct_concat (l : List κ) (a : κ) : distinct (l ++ [a]) = addNew (distinct l) a := by
  rw [← foldl_addNew_nil, ← foldl_addNew_nil, List.foldl_append]
  rfl

def putEntry (key : κ) (value : α) : List (κ × α) → List (κ × α)
  | [] => [(key, value)]
  | (k, v) :: rest => if k = key then (key, value) :: rest else (k, v) :: putEntry key value rest

theorem map_fst_putEntry (key : κ) (value : α) (l : List (κ × α)) :
    (putEntry key value l).map Prod.fst =
      if key ∈ l.map Prod.fst then l.map Prod.fst else l.map Prod.fst ++ [key] := by
  induction l with
  | nil => simp [putEntry]
  | cons entry rest ih =>
    obtain ⟨k, v⟩ := entry
    by_cases same : k = key
    · simp [putEntry, same]
    · have other : ¬ key = k := fun h => same h.symm
      simp only [putEntry, same, ite_false, List.map_cons, ih, List.mem_cons, other, false_or]
      split <;> simp

theorem mem_putEntry {key : κ} {value : α} {l : List (κ × α)} {entry : κ × α}
    (member : entry ∈ putEntry key value l) : entry = (key, value) ∨ entry ∈ l := by
  induction l with
  | nil => simpa [putEntry] using member
  | cons first rest ih =>
    rw [putEntry] at member
    split at member
    · rcases List.mem_cons.1 member with same | later
      · exact .inl same
      · exact .inr (List.mem_cons_of_mem _ later)
    · rcases List.mem_cons.1 member with same | later
      · exact .inr (by simp [same])
      · exact (ih later).imp_right (List.mem_cons_of_mem _)

theorem putEntry_of_absent {key : κ} {l : List (κ × α)} (absent : key ∉ l.map Prod.fst) (value : α) :
    putEntry key value l = l ++ [(key, value)] := by
  induction l with
  | nil => rfl
  | cons first rest ih =>
    rw [List.map_cons, List.mem_cons, not_or] at absent
    rw [putEntry, if_neg fun same => absent.1 same.symm, ih absent.2, List.cons_append]

theorem lookup_entry (key k : κ) (value : α) (rest : List (κ × α)) :
    ((key, value) :: rest).lookup k = if k = key then some value else rest.lookup k := by
  rw [List.lookup_cons]
  by_cases same : k = key
  · simp [same]
  · simp [same, beq_false_of_ne same]

theorem lookup_putEntry (key : κ) (value : α) (l : List (κ × α)) (k : κ) :
    (putEntry key value l).lookup k = if k = key then some value else l.lookup k := by
  induction l with
  | nil => rw [putEntry, lookup_entry]
  | cons entry rest ih =>
    obtain ⟨first, v⟩ := entry
    by_cases same : first = key
    · subst same
      rw [putEntry, if_pos rfl, lookup_entry, lookup_entry]
      split <;> rfl
    · rw [putEntry, if_neg same, lookup_entry, lookup_entry, ih]
      by_cases found : k = first
      · subst found
        simp [same]
      · simp [found]

theorem lookup_eq_none {key : κ} {l : List (κ × α)} (absent : key ∉ l.map Prod.fst) :
    l.lookup key = none := by
  induction l with
  | nil => rfl
  | cons entry rest ih =>
    rw [List.map_cons, List.mem_cons, not_or] at absent
    rw [lookup_entry, if_neg absent.1, ih absent.2]

theorem nodup_putEntry (key : κ) (value : α) {l : List (κ × α)} (distinctKeys : (l.map Prod.fst).Nodup) :
    ((putEntry key value l).map Prod.fst).Nodup := by
  rw [map_fst_putEntry]
  split
  · exact distinctKeys
  · rename_i absent
    exact List.nodup_append.2 ⟨distinctKeys, by simp, fun a memA b memB => by
      simp only [List.mem_singleton] at memB
      subst memB
      exact fun same => absent (same ▸ memA)⟩

end Lists

/-- A finite map that remembers in which order its keys were first given. -/
structure Table (κ : Type u) (α : Type v) where
  entries : List (κ × α)
  nodup_keys : (entries.map Prod.fst).Nodup
  deriving DecidableEq

namespace Table

variable {κ : Type u} {α : Type v} {β : Type w}

def empty : Table κ α := ⟨[], by simp⟩

instance : EmptyCollection (Table κ α) := ⟨empty⟩

instance : Inhabited (Table κ α) := ⟨empty⟩

def keys (t : Table κ α) : List κ := t.entries.map Prod.fst

def values (t : Table κ α) : List α := t.entries.map Prod.snd

def size (t : Table κ α) : Nat := t.entries.length

def isEmpty (t : Table κ α) : Bool := t.entries.isEmpty

def mapValues (f : κ → α → β) (t : Table κ α) : Table κ β where
  entries := t.entries.map fun (k, v) => (k, f k v)
  nodup_keys := by
    have same : (t.entries.map fun (k, v) => (k, f k v)).map Prod.fst = t.entries.map Prod.fst := by
      simp [Function.comp_def]
    rw [same]
    exact t.nodup_keys

def filter (keep : κ → α → Bool) (t : Table κ α) : Table κ α where
  entries := t.entries.filter fun (k, v) => keep k v
  nodup_keys := t.nodup_keys.sublist (List.filter_sublist.map _)

theorem nodup_entries (t : Table κ α) : t.entries.Nodup :=
  List.Pairwise.of_map Prod.fst (fun _ _ differ same => differ (congrArg Prod.fst same)) t.nodup_keys

variable [DecidableEq κ]

def get? (t : Table κ α) (key : κ) : Option α := t.entries.lookup key

def contains (t : Table κ α) (key : κ) : Bool := (t.get? key).isSome

/-- A key that is present keeps its place; a new one goes to the end. -/
def insert (t : Table κ α) (key : κ) (value : α) : Table κ α :=
  ⟨putEntry key value t.entries, nodup_putEntry key value t.nodup_keys⟩

@[simp] theorem get?_empty (key : κ) : (∅ : Table κ α).get? key = none := rfl

theorem get?_insert (t : Table κ α) (key : κ) (value : α) (k : κ) :
    (t.insert key value).get? k = if k = key then some value else t.get? k :=
  lookup_putEntry key value t.entries k

theorem contains_insert (t : Table κ α) (key : κ) (value : α) (k : κ) :
    (t.insert key value).contains k = (decide (k = key) || t.contains k) := by
  rw [contains, get?_insert, contains]
  by_cases same : k = key
  · simp [same]
  · simp [same]

theorem mem_entries {t : Table κ α} {key : κ} {value : α} :
    (key, value) ∈ t.entries ↔ t.get? key = some value := by
  obtain ⟨entries, nodup⟩ := t
  change (key, value) ∈ entries ↔ entries.lookup key = some value
  induction entries with
  | nil => simp
  | cons entry rest ih =>
    obtain ⟨first, v⟩ := entry
    obtain ⟨absent, others⟩ := List.nodup_cons.1 nodup
    rw [List.mem_cons, lookup_entry, ih others]
    by_cases same : key = first
    · subst same
      simp [lookup_eq_none absent, eq_comm]
    · simp [same]

theorem mem_values {t : Table κ α} {value : α} :
    value ∈ t.values ↔ ∃ key, t.get? key = some value := by
  simp [values, ← mem_entries]

theorem mem_keys {t : Table κ α} {key : κ} : key ∈ t.keys ↔ (t.get? key).isSome := by
  simp [keys, get?, List.lookup_isSome_iff]

def update (t : Table κ α) (key : κ) (f : Option α → α) : Table κ α := t.insert key (f (t.get? key))

theorem get?_update (t : Table κ α) (key : κ) (f : Option α → α) (k : κ) :
    (t.update key f).get? k = if k = key then some (f (t.get? key)) else t.get? k :=
  get?_insert t key _ k

theorem get?_foldl_update (t : Table κ β) (f : α → Option β → β) (l : List (κ × α))
    (distinctKeys : (l.map Prod.fst).Nodup) (key : κ) :
    (l.foldl (fun t entry => t.update entry.1 (f entry.2)) t).get? key =
      (l.lookup key).elim (t.get? key) fun value => some (f value (t.get? key)) := by
  induction l generalizing t with
  | nil => rfl
  | cons entry rest ih =>
    obtain ⟨first, value⟩ := entry
    obtain ⟨absent, others⟩ := List.nodup_cons.1 distinctKeys
    rw [List.foldl_cons, ih _ others, get?_update, lookup_entry]
    by_cases same : key = first
    · subst same
      simp [lookup_eq_none absent]
    · simp [same]

def getD (t : Table κ α) (key : κ) (default : α) : α := (t.get? key).getD default

def insertAll (t : Table κ α) (l : List (κ × α)) : Table κ α :=
  l.foldl (fun t (k, v) => t.insert k v) t

theorem get?_insertAll_map (t : Table κ α) (l : List κ) (f : κ → α) (key : κ) :
    (t.insertAll (l.map fun k => (k, f k))).get? key = if key ∈ l then some (f key) else t.get? key := by
  induction l generalizing t with
  | nil => simp [insertAll]
  | cons first rest ih =>
    have step : t.insertAll ((first :: rest).map fun k => (k, f k)) =
        (t.insert first (f first)).insertAll (rest.map fun k => (k, f k)) := rfl
    rw [step, ih, get?_insert]
    by_cases later : key ∈ rest
    · simp [later]
    · by_cases same : key = first <;> simp [later, same]

def ofList (l : List (κ × α)) : Table κ α := empty.insertAll l

theorem keys_insert (t : Table κ α) (key : κ) (value : α) :
    (t.insert key value).keys = addNew t.keys key := map_fst_putEntry key value t.entries

omit [DecidableEq κ] in
theorem length_keys (t : Table κ α) : t.keys.length = t.size := List.length_map _

theorem get?_insert_of_absent {t : Table κ α} {key k : κ} {old : α} (absent : t.get? key = none)
    (value : α) (found : t.get? k = some old) : (t.insert key value).get? k = some old := by
  rw [get?_insert, if_neg, found]
  rintro rfl
  cases absent.symm.trans found

theorem size_insert_of_absent {t : Table κ α} {key : κ} (absent : t.get? key = none) (value : α) :
    (t.insert key value).size = t.size + 1 := by
  have unlisted : key ∉ t.keys := by simp [mem_keys, absent]
  have entries : (t.insert key value).entries = t.entries ++ [(key, value)] :=
    putEntry_of_absent unlisted value
  rw [size, entries, List.length_append, List.length_singleton, size]

theorem keys_foldl_update (t : Table κ β) (f : α → Option β → β) (l : List (κ × α)) :
    (l.foldl (fun t entry => t.update entry.1 (f entry.2)) t).keys =
      (l.map Prod.fst).foldl addNew t.keys := by
  induction l generalizing t with
  | nil => rfl
  | cons entry rest ih => rw [List.foldl_cons, ih, List.map_cons, List.foldl_cons, update, keys_insert]

theorem keys_insertAll (t : Table κ α) (l : List (κ × α)) :
    (t.insertAll l).keys = (l.map Prod.fst).foldl addNew t.keys := by
  induction l generalizing t with
  | nil => rfl
  | cons entry rest ih => rw [List.map_cons, List.foldl_cons, ← keys_insert t entry.1 entry.2, ← ih]; rfl

theorem mem_keys_insertAll {t : Table κ α} {l : List (κ × α)} {key : κ} :
    key ∈ (t.insertAll l).keys ↔ key ∈ t.keys ∨ key ∈ l.map Prod.fst := by
  rw [keys_insertAll, foldl_addNew, List.mem_append, List.mem_filter, mem_distinct]
  by_cases known : key ∈ t.keys <;> simp [known]

theorem keys_ofList (l : List (κ × α)) : (ofList l).keys = distinct (l.map Prod.fst) := by
  rw [ofList, keys_insertAll, foldl_addNew]
  simp [keys, empty]

theorem mem_insertAll {t : Table κ α} {l : List (κ × α)} {entry : κ × α}
    (member : entry ∈ (t.insertAll l).entries) : entry ∈ t.entries ∨ entry ∈ l := by
  induction l generalizing t with
  | nil => exact .inl member
  | cons first rest ih =>
    rcases ih member with earlier | later
    · rcases mem_putEntry earlier with rfl | kept
      · exact .inr (by simp)
      · exact .inl kept
    · exact .inr (List.mem_cons_of_mem _ later)

theorem mem_ofList {l : List (κ × α)} {entry : κ × α} (member : entry ∈ (ofList l).entries) :
    entry ∈ l := (mem_insertAll member).resolve_left (by simp [empty])

theorem entries_insertAll (t : Table κ α) {l : List (κ × α)}
    (distinctKeys : (t.entries.map Prod.fst ++ l.map Prod.fst).Nodup) :
    (t.insertAll l).entries = t.entries ++ l := by
  induction l generalizing t with
  | nil => simp [insertAll]
  | cons entry rest ih =>
    have absent : entry.1 ∉ t.entries.map Prod.fst := fun present =>
      (List.nodup_append.1 distinctKeys).2.2 _ present _ (by simp) rfl
    have first : (t.insert entry.1 entry.2).entries = t.entries ++ [entry] :=
      putEntry_of_absent absent entry.2
    have later := ih (t.insert entry.1 entry.2) (by simpa [first] using distinctKeys)
    rw [first, List.append_assoc] at later
    exact later

theorem entries_ofList {l : List (κ × α)} (distinctKeys : (l.map Prod.fst).Nodup) :
    (ofList l).entries = l := by
  rw [ofList, entries_insertAll empty (by simpa [empty] using distinctKeys)]
  rfl

theorem ofList_concat (l : List (κ × α)) (entry : κ × α) :
    ofList (l ++ [entry]) = (ofList l).insert entry.1 entry.2 := by
  simp [ofList, insertAll]

theorem get?_ofList_append (l : List (κ × α)) (key : κ) (value : α) :
    (ofList (l ++ [(key, value)])).get? key = some value := by
  rw [ofList_concat, get?_insert, if_pos rfl]

def group (l : List (κ × α)) : Table κ (List α) :=
  l.foldl (fun t (k, v) => t.update k fun old => old.getD [] ++ [v]) empty

theorem mem_of_mem_group {l : List (κ × α)} {key : κ} {values : List α}
    (found : (group l).get? key = some values) : ∀ value ∈ values, (key, value) ∈ l := by
  have among : ∀ (l : List (κ × α)) (t : Table κ (List α)), ∀ value ∈ ((l.foldl (fun t (k, v) =>
      t.update k fun old => old.getD [] ++ [v]) t).get? key).getD [],
      value ∈ (t.get? key).getD [] ∨ (key, value) ∈ l := by
    intro l
    induction l with
    | nil => exact fun t value member => .inl member
    | cons entry rest ih =>
      intro t value member
      rcases ih _ value member with before | later
      · rw [get?_update] at before
        split at before
        · rename_i same
          rw [Option.getD_some, List.mem_append, List.mem_singleton] at before
          exact before.imp (same ▸ id) fun new => by simp [same, new]
        · exact .inl before
      · exact .inr (List.mem_cons_of_mem _ later)
  intro value member
  have there := among l empty value (by rw [group] at found; simpa [found] using member)
  exact there.resolve_left nofun

end Table

end UefiBuild
