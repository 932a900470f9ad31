import UefiBuild.Proofs.Options.Keys
import UefiBuild.Proofs.Wildcard
import UefiBuild.Tools.Table

namespace UefiBuild.ToolTable

/-- Two points for each of target, toolchain and architecture that a key names, and one for a tool. -/
def specificity (key : OptionKey) : Nat :=
  let points (field : String) (n : Nat) := if field = "*" then 0 else n
  points key.target 2 + points key.toolchain 2 + points key.arch 2 + points key.command 1

def Names (tools : ToolTable) (tool : String) : Prop :=
  (∃ key ∈ tools.entries.keys, (Text.split '_' key)[3]? = some tool) ∧ tool ≠ "*"

instance (tools : ToolTable) (tool : String) : Decidable (tools.Names tool) :=
  inferInstanceAs (Decidable (_ ∧ _))

def Applies (target toolchain arch : String) (key : OptionKey) : Prop :=
  (key.target = "*" ∨ key.target = target) ∧ (key.toolchain = "*" ∨ key.toolchain = toolchain) ∧
    (key.arch = "*" ∨ key.arch = arch)

instance (target toolchain arch : String) (key : OptionKey) : Decidable (Applies target toolchain arch key) :=
  inferInstanceAs (Decidable (_ ∧ _))

/-- A key that applies gives its attribute to the tool it names, or to every tool that the table names. -/
def Gives (tools : ToolTable) (target toolchain arch : String) (key : OptionKey) (tool attr : String) :
    Prop :=
  Applies target toolchain arch key ∧
    (if key.command = "*" then tools.Names tool else key.command = tool) ∧ key.attr = attr

instance (tools : ToolTable) (target toolchain arch : String) (key : OptionKey) (tool attr : String) :
    Decidable (tools.Gives target toolchain arch key tool attr) :=
  inferInstanceAs (Decidable (_ ∧ _))

variable {tools : ToolTable} {target toolchain arch tool attr value : String} {key : OptionKey}

theorem mem_toolNames : tool ∈ tools.toolNames ↔ tools.Names tool := by
  simp [toolNames, Names, mem_distinct]

theorem nodup_toolNames (tools : ToolTable) : tools.toolNames.Nodup := (nodup_distinct _).filter _

theorem specificity_lt (key : OptionKey) : specificity key < 8 := by
  have bound (field : String) (n : Nat) : (if field = "*" then 0 else n) ≤ n := by split <;> omega
  have targets := bound key.target 2
  have toolchains := bound key.toolchain 2
  have arches := bound key.arch 2
  have commands := bound key.command 1
  simp only [specificity]
  omega

theorem fieldRank?_eq (field wanted : String) :
    fieldRank? field wanted =
      if field = "*" ∨ field = wanted then some (if field = "*" then 0 else 2) else none := by
  unfold fieldRank?
  by_cases any : field = "*" <;> simp [any]

theorem keyMatches_of_unread {text : String} (unread : OptionKey.ofText? text = none) (names : List String) :
    keyMatches names target toolchain arch text value = [] := by
  unfold keyMatches
  split
  · rename_i fields
    simp [OptionKey.ofText?, fields] at unread
  · rfl

theorem keyMatches_of_read {text : String} (read : OptionKey.ofText? text = some key) (names : List String) :
    keyMatches names target toolchain arch text value =
      if Applies target toolchain arch key then
        (if key.command = "*" then names else [key.command]).map fun tool =>
          { rank := specificity key, tool, attr := key.attr, value }
      else [] := by
  unfold keyMatches
  rw [OptionKey.ofText?_eq_some_iff.1 read]
  simp only [fieldRank?_eq]
  by_cases targets : key.target = "*" ∨ key.target = target
  · by_cases toolchains : key.toolchain = "*" ∨ key.toolchain = toolchain
    · by_cases arches : key.arch = "*" ∨ key.arch = arch
      · by_cases any : key.command = "*" <;>
          simp [targets, toolchains, arches, any, Applies, specificity]
      · simp [targets, toolchains, arches, Applies]
    · simp [targets, toolchains, Applies]
  · simp [targets, Applies]

def matchFor? (tools : ToolTable) (target toolchain arch tool attr : String) (entry : String × String) :
    Option Match :=
  ((OptionKey.ofText? entry.1).filter (tools.Gives target toolchain arch · tool attr)).map fun key =>
    { rank := specificity key, tool, attr, value := entry.2 }

theorem matchFor?_eq_some {entry : String × String} {found : Match} :
    tools.matchFor? target toolchain arch tool attr entry = some found ↔
      ∃ key, OptionKey.ofText? entry.1 = some key ∧ tools.Gives target toolchain arch key tool attr ∧
        found = { rank := specificity key, tool, attr, value := entry.2 } := by
  rw [matchFor?, Option.map_eq_some_iff]
  refine exists_congr fun key => ?_
  rw [Option.filter_eq_some_iff, decide_eq_true_eq, and_assoc, eq_comm (b := found)]

theorem filter_keyMatches (entry : String × String) :
    (keyMatches tools.toolNames target toolchain arch entry.1 entry.2).filter
        (fun found => (found.tool, found.attr) = (tool, attr)) =
      (tools.matchFor? target toolchain arch tool attr entry).toList := by
  cases read : OptionKey.ofText? entry.1 with
  | none => simp [keyMatches_of_unread read, matchFor?, read]
  | some key =>
    rw [keyMatches_of_read read, matchFor?, read, Option.filter_some]
    by_cases applies : Applies target toolchain arch key
    · by_cases same : key.attr = attr
      · by_cases any : key.command = "*"
        · -- The tools that the table names are listed once each.
          simp [applies, same, any, Gives, List.filter_map, Function.comp_def, List.filter_eq,
            (nodup_toolNames tools).count, mem_toolNames]
          split <;> rfl
        · by_cases named : key.command = tool
          · subst named
            simp [applies, same, any, Gives]
          · simp [applies, same, any, Gives, named]
      · simp [applies, same, Gives]
    · simp [applies, Gives]

section Best

variable {before after found : List Match} {best : Match}

theorem exists_best (some' : found ≠ []) : ∃ before best after, found = before ++ best :: after ∧
    (∀ other ∈ before, other.rank ≤ best.rank) ∧ ∀ other ∈ after, other.rank < best.rank := by
  induction found with
  | nil => exact absurd rfl some'
  | cons first rest ih =>
    by_cases alone : rest = []
    · exact ⟨[], first, [], by rw [alone, List.nil_append], nofun, nofun⟩
    · obtain ⟨before, best, after, rfl, lower, less⟩ := ih alone
      by_cases higher : best.rank < first.rank
      · refine ⟨[], first, _, rfl, nofun, fun other member => ?_⟩
        rcases List.mem_append.1 member with early | late
        · exact Nat.lt_of_le_of_lt (lower other early) higher
        · rcases List.mem_cons.1 late with rfl | late
          · exact higher
          · exact Nat.lt_trans (less other late) higher
      · refine ⟨first :: before, best, after, rfl, fun other member => ?_, less⟩
        rcases List.mem_cons.1 member with rfl | member
        · exact Nat.le_of_not_lt higher
        · exact lower other member

theorem pairwise_byRank (found : List Match) : (byRank found).Pairwise (·.rank ≤ ·.rank) := by
  refine List.pairwise_flatMap.2 ⟨fun rank _ => ?_, List.pairwise_lt_range.imp fun less => ?_⟩
  · refine List.pairwise_of_forall_mem_list fun one here two there => ?_
    have same := of_decide_eq_true (List.mem_filter.1 here).2
    have same' := of_decide_eq_true (List.mem_filter.1 there).2
    omega
  · intro one here two there
    have low := of_decide_eq_true (List.mem_filter.1 here).2
    have high := of_decide_eq_true (List.mem_filter.1 there).2
    omega

theorem filter_rank_byRank (found : List Match) {rank : Nat} (bound : rank < 8) :
    (byRank found).filter (·.rank = rank) = found.filter (·.rank = rank) := by
  obtain ⟨below, above, ranks⟩ := List.append_of_mem (List.mem_range.2 bound)
  have distinct : (below ++ rank :: above).Nodup := ranks ▸ List.nodup_range
  obtain ⟨-, others, apart⟩ := List.nodup_append.1 distinct
  have elsewhere {level : Nat} (differ : level ≠ rank) :
      (found.filter (·.rank = level)).filter (·.rank = rank) = [] := by
    simp only [List.filter_filter, List.filter_eq_nil_iff, Bool.and_eq_true, decide_eq_true_eq]
    rintro match' - ⟨here, there⟩
    exact differ (there.symm.trans here)
  have lower : below.flatMap (fun level => (found.filter (·.rank = level)).filter (·.rank = rank)) = [] :=
    List.flatMap_eq_nil_iff.2 fun level member => elsewhere (apart level member rank (by simp))
  have higher : above.flatMap (fun level => (found.filter (·.rank = level)).filter (·.rank = rank)) = [] :=
    List.flatMap_eq_nil_iff.2 fun level member =>
      elsewhere (ne_of_mem_of_not_mem member (List.nodup_cons.1 others).1)
  rw [byRank, ranks, List.filter_flatMap, List.flatMap_append, List.flatMap_cons, lower, higher]
  simp [List.filter_filter]

theorem getLast?_of_rising (rising : found.Pairwise (·.rank ≤ ·.rank)) {top : Nat}
    (bound : ∀ other ∈ found, other.rank ≤ top) (reached : ∃ other ∈ found, other.rank = top) :
    found.getLast? = (found.filter (·.rank = top)).getLast? := by
  obtain rfl | ⟨front, last, rfl⟩ := List.eq_nil_or_concat' found
  · rfl
  · have level : last.rank = top := by
      obtain ⟨other, member, reached⟩ := reached
      have below := bound last (by simp)
      rcases List.mem_append.1 member with early | late
      · have rises := (List.pairwise_append.1 rising).2.2 other early last (by simp)
        omega
      · rw [List.mem_singleton] at late
        rwa [← late]
    rw [List.filter_append, List.filter_cons_of_pos (by simpa using level), List.filter_nil,
      List.getLast?_concat, List.getLast?_concat]

theorem getLast?_byRank (lower : ∀ other ∈ before, other.rank ≤ best.rank)
    (less : ∀ other ∈ after, other.rank < best.rank) (bound : best.rank < 8) :
    (byRank (before ++ best :: after)).getLast? = some best := by
  have stable := filter_rank_byRank (before ++ best :: after) bound
  have behind : after.filter (·.rank = best.rank) = [] :=
    List.filter_eq_nil_iff.2 fun other member => by simpa using Nat.ne_of_lt (less other member)
  have kept : best ∈ (byRank (before ++ best :: after)).filter (·.rank = best.rank) := by
    rw [stable]
    simp
  have highest : ∀ other ∈ byRank (before ++ best :: after), other.rank ≤ best.rank := by
    intro other member
    obtain ⟨_, -, member⟩ := List.mem_flatMap.1 member
    rcases List.mem_append.1 (List.mem_of_mem_filter member) with early | late
    · exact lower other early
    · rcases List.mem_cons.1 late with rfl | late
      · exact Nat.le_refl _
      · exact Nat.le_of_lt (less other late)
  rw [getLast?_of_rising (pairwise_byRank _) highest ⟨best, List.mem_of_mem_filter kept, rfl⟩, stable,
    List.filter_append, List.filter_cons_of_pos (by simp), behind]
  simp

end Best

theorem filter_byRank (counts : Match → Bool) (found : List Match) :
    (byRank found).filter counts = byRank (found.filter counts) := by
  simp only [byRank, List.filter_flatMap, List.filter_filter, Bool.and_comm]

theorem get?_entriesFor :
    (tools.entriesFor target toolchain arch).get? (tool, attr) =
      (byRank (tools.entries.entries.filterMap
        (tools.matchFor? target toolchain arch tool attr))).getLast?.map (·.value) := by
  have given : (tools.entries.entries.flatMap fun entry =>
      keyMatches tools.toolNames target toolchain arch entry.1 entry.2).filter
        (fun found => (found.tool, found.attr) = (tool, attr)) =
      tools.entries.entries.filterMap (tools.matchFor? target toolchain arch tool attr) := by
    rw [List.filter_flatMap, List.filterMap_eq_flatMap_toList]
    exact congrArg (List.flatMap · _) (funext filter_keyMatches)
  rw [entriesFor, Table.get?_ofList, lastFiled?, List.filter_map, List.getLast?_map, ← given,
    ← filter_byRank, Option.map_map]
  rfl

def GivenBy (tools : ToolTable) (target toolchain arch tool attr : String) (rows : List (String × String))
    (key : OptionKey) : Prop :=
  (∃ row ∈ rows, OptionKey.ofText? row.1 = some key) ∧ tools.Gives target toolchain arch key tool attr

/-- The entry that decides on an attribute of a tool: none that gives it is more specific, and none behind
it as specific. -/
def Decides (tools : ToolTable) (target toolchain arch tool attr value : String) : Prop :=
  ∃ before text key after, tools.entries.entries = before ++ (text, value) :: after ∧
    OptionKey.ofText? text = some key ∧ tools.Gives target toolchain arch key tool attr ∧
    (∀ other, tools.GivenBy target toolchain arch tool attr before other →
      specificity other ≤ specificity key) ∧
    ∀ other, tools.GivenBy target toolchain arch tool attr after other →
      specificity other < specificity key

theorem forall_rank_iff (within : Nat → Prop) {rows : List (String × String)} :
    (∀ found ∈ rows.filterMap (tools.matchFor? target toolchain arch tool attr), within found.rank) ↔
      ∀ key, tools.GivenBy target toolchain arch tool attr rows key → within (specificity key) := by
  simp only [List.mem_filterMap]
  constructor
  · rintro ranks key ⟨⟨row, member, read⟩, gives⟩
    exact ranks _ ⟨row, member, matchFor?_eq_some.2 ⟨key, read, gives, rfl⟩⟩
  · rintro keys found ⟨row, member, given⟩
    obtain ⟨key, read, gives, rfl⟩ := matchFor?_eq_some.1 given
    exact keys key ⟨⟨row, member, read⟩, gives⟩

theorem matches_eq_nil_iff {rows : List (String × String)} :
    rows.filterMap (tools.matchFor? target toolchain arch tool attr) = [] ↔
      ∀ key, ¬ tools.GivenBy target toolchain arch tool attr rows key :=
  List.eq_nil_iff_forall_not_mem.trans (forall_rank_iff fun _ => False)

theorem decides_iff : tools.Decides target toolchain arch tool attr value ↔
    ∃ before best after,
      tools.entries.entries.filterMap (tools.matchFor? target toolchain arch tool attr) =
        before ++ best :: after ∧
      (∀ other ∈ before, other.rank ≤ best.rank) ∧ (∀ other ∈ after, other.rank < best.rank) ∧
      best.value = value := by
  constructor
  · rintro ⟨before, text, key, after, entries, read, gives, lower, less⟩
    have given : tools.matchFor? target toolchain arch tool attr (text, value) = some _ :=
      matchFor?_eq_some.2 ⟨key, read, gives, rfl⟩
    rw [entries, List.filterMap_append, List.filterMap_cons_some given]
    exact ⟨_, _, _, rfl, (forall_rank_iff ((· ≤ specificity key))).2 lower,
      (forall_rank_iff ((· < specificity key))).2 less, rfl⟩
  · rintro ⟨before, best, after, found, lower, less, rfl⟩
    obtain ⟨early, late, entries, rfl, rest⟩ := List.filterMap_eq_append_iff.1 found
    obtain ⟨silent, ⟨text, value⟩, behind, rfl, none, given, rfl⟩ := List.filterMap_eq_cons_iff.1 rest
    obtain ⟨key, read, gives, rfl⟩ := matchFor?_eq_some.1 given
    refine ⟨early ++ silent, text, key, behind, by simp [entries], read, gives, ?_,
      (forall_rank_iff ((· < specificity key))).1 less⟩
    -- The entries in front that give nothing do not count.
    refine (forall_rank_iff ((· ≤ specificity key))).1 fun other member => lower other ?_
    rwa [List.filterMap_append, List.filterMap_eq_nil_iff.2 none, List.append_nil] at member

theorem rank_lt_of_matches {found : Match}
    (member : found ∈ tools.entries.entries.filterMap (tools.matchFor? target toolchain arch tool attr)) :
    found.rank < 8 :=
  (forall_rank_iff (· < 8)).2 (fun key _ => specificity_lt key) found member

theorem get?_entriesFor_eq_some_iff :
    (tools.entriesFor target toolchain arch).get? (tool, attr) = some value ↔
      tools.Decides target toolchain arch tool attr value := by
  have bound : ∀ found ∈ tools.entries.entries.filterMap
      (tools.matchFor? target toolchain arch tool attr), found.rank < 8 := fun _ => rank_lt_of_matches
  rw [get?_entriesFor, decides_iff]
  generalize tools.entries.entries.filterMap (tools.matchFor? target toolchain arch tool attr) = found
    at bound
  constructor
  · intro chosen
    have some' : found ≠ [] := by
      rintro rfl
      cases chosen
    obtain ⟨before, best, after, rfl, lower, less⟩ := exists_best some'
    rw [getLast?_byRank lower less (bound best (by simp))] at chosen
    exact ⟨before, best, after, rfl, lower, less, Option.some.inj chosen⟩
  · rintro ⟨before, best, after, rfl, lower, less, rfl⟩
    rw [getLast?_byRank lower less (bound best (by simp)), Option.map_some]

theorem exists_decides_iff : (∃ value, tools.Decides target toolchain arch tool attr value) ↔
    ∃ key, tools.GivenBy target toolchain arch tool attr tools.entries.entries key := by
  simp only [decides_iff]
  constructor
  · rintro ⟨_, before, best, after, found, -⟩
    by_contra none
    rw [not_exists, ← matches_eq_nil_iff, found] at none
    simp at none
  · rintro ⟨key, given⟩
    obtain ⟨before, best, after, found, lower, less⟩ := exists_best fun none =>
      matches_eq_nil_iff.1 none key given
    exact ⟨_, before, best, after, found, lower, less, rfl⟩

/-- Each attribute of each tool that some entry gives is listed once, with the value of the entry that
decides. -/
theorem entriesFor_most_specific (tools : ToolTable) (target toolchain arch : String) :
    (tools.entriesFor target toolchain arch).keys.Nodup ∧
      ∀ tool attr,
        ((tool, attr) ∈ (tools.entriesFor target toolchain arch).keys ↔
          ∃ key, tools.GivenBy target toolchain arch tool attr tools.entries.entries key) ∧
        ∀ value, ((tool, attr), value) ∈ (tools.entriesFor target toolchain arch).entries ↔
          tools.Decides target toolchain arch tool attr value := by
  refine ⟨Table.nodup_keys _, fun tool attr => ⟨?_, fun value => ?_⟩⟩
  · rw [Table.mem_keys, Option.isSome_iff_exists, ← exists_decides_iff]
    exact exists_congr fun _ => get?_entriesFor_eq_some_iff
  · rw [Table.mem_entries, get?_entriesFor_eq_some_iff]

/-- The key of four fields gives nothing, but it names a tool. Of the two paths that are equally specific the
later one is taken. -/
example :
    let tools : ToolTable := ⟨.ofList [("*_GCC5_*_*_FAMILY", "GCC"), ("*_*_X64_CC_PATH", "cc"),
      ("DEBUG_*_*_CC_PATH", "gcc"), ("*_*_*_CC_PATH", "c89"), ("*_*_*_ASM", "nasm")]⟩
    (tools.entriesFor "DEBUG" "GCC5" "X64").entries =
      [(("CC", "PATH"), "gcc"), (("CC", "FAMILY"), "GCC"), (("ASM", "FAMILY"), "GCC")] := by
  decide +kernel

end UefiBuild.ToolTable
