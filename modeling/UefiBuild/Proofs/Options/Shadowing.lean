import Mathlib.Data.Finset.Max
import Mathlib.Data.Prod.Lex
import UefiBuild.Proofs.Checked
import UefiBuild.Proofs.Options.Layering

namespace UefiBuild

namespace OptionKey

variable {key other third : OptionKey}

theorem meets_iff {a b : String} : meets a b ↔ a = b ∨ a = "*" ∨ b = "*" := by
  simp [meets, or_assoc]

theorem overlaps_iff : key.overlaps other ↔
    meets key.target other.target ∧ meets key.toolchain other.toolchain ∧ meets key.arch other.arch ∧
      meets key.command other.command ∧ meets key.attr other.attr := by
  simp [overlaps, and_assoc]

theorem meets_comm {a b : String} : meets a b ↔ meets b a := by
  rw [meets_iff, meets_iff, eq_comm, or_comm (a := a = "*")]

theorem overlaps_comm : key.overlaps other ↔ other.overlaps key := by
  simp only [overlaps_iff, meets_comm (a := key.target), meets_comm (a := key.toolchain),
    meets_comm (a := key.arch), meets_comm (a := key.command), meets_comm (a := key.attr)]

theorem priority_eq_zero_iff : key.priority = 0 ↔ key.attr = "*" := by
  unfold priority
  split <;> simp [*]

theorem nine_le_priority_iff : 9 ≤ key.priority ↔ key.attr ≠ "*" ∧ key.command ≠ "*" := by
  have bound (field : String) (n : Nat) : (if field = "*" then 0 else n) ≤ n := by split <;> omega
  have arch := bound key.arch 4
  have toolchain := bound key.toolchain 2
  have target := bound key.target 1
  unfold priority
  by_cases attr : key.attr = "*"
  · simp [attr]
  · by_cases command : key.command = "*"
    · simp only [attr, command, if_true, if_false, ne_eq, not_true, and_false, iff_false]
      omega
    · simp only [attr, command, if_false, ne_eq, not_false_eq_true, and_true, iff_true]
      omega

theorem attr_ne_of_le (lower : key.priority ≤ other.priority) (named : key.attr ≠ "*") :
    other.attr ≠ "*" := by
  rw [ne_eq, ← priority_eq_zero_iff] at named ⊢
  omega

theorem command_ne_of_le (lower : key.priority ≤ other.priority) (attr : key.attr ≠ "*")
    (command : key.command ≠ "*") : other.command ≠ "*" :=
  (nine_le_priority_iff.1 ((nine_le_priority_iff.2 ⟨attr, command⟩).trans lower)).2

/-- Overlapping goes on to a key of higher priority, unless it starts from all attributes of a tool. -/
theorem meets_of_chain (first : key.overlaps other) (second : other.overlaps third)
    (lower : key.priority ≤ other.priority) (higher : other.priority ≤ third.priority)
    (open' : key.attr = "*" → key.command = "*") :
    meets key.command third.command ∧ meets key.attr third.attr := by
  obtain ⟨-, -, -, command, attr⟩ := overlaps_iff.1 first
  obtain ⟨-, -, -, command', attr'⟩ := overlaps_iff.1 second
  simp only [meets_iff] at *
  by_cases anyAttr : key.attr = "*"
  · exact ⟨.inr (.inl (open' anyAttr)), .inr (.inl anyAttr)⟩
  · have named := attr_ne_of_le lower anyAttr
    have named' := attr_ne_of_le higher named
    have sameAttr : key.attr = third.attr := by simp_all
    refine ⟨?_, .inl sameAttr⟩
    by_cases anyCommand : key.command = "*"
    · exact .inr (.inl anyCommand)
    · have tool := command_ne_of_le lower anyAttr anyCommand
      have tool' := command_ne_of_le higher named tool
      simp_all

end OptionKey

namespace OptionContext

variable {context : OptionContext} {options left : BuildOptions}

def override? (context : OptionContext) (entry : OptionId × String) : Option OptionKey :=
  if entry.1.family = context.buildRuleFamily ∧ Text.startsWith "=" entry.2 then
    (OptionKey.ofText? entry.1.key).filter context.selects
  else none

def overrides (context : OptionContext) (options : BuildOptions) : List (OptionId × OptionKey) :=
  options.entries.filterMap fun entry => (context.override? entry).map (entry.1, ·)

theorem selects_of_override? {entry : OptionId × String} {key : OptionKey}
    (found : context.override? entry = some key) : context.selects key := by
  unfold override? at found
  split at found
  · exact (Option.filter_eq_some_iff.1 found).2
  · cases found

theorem mem_overrides {id : OptionId} {key : OptionKey} :
    (id, key) ∈ context.overrides options ↔
      ∃ value, (id, value) ∈ options.entries ∧ context.override? (id, value) = some key := by
  simp only [overrides, List.mem_filterMap, Option.map_eq_some_iff, Prod.mk.injEq]
  constructor
  · rintro ⟨⟨_, value⟩, member, _, found, rfl, rfl⟩
    exact ⟨value, member, found⟩
  · rintro ⟨value, member, found⟩
    exact ⟨(id, value), member, key, found, rfl, rfl⟩

theorem selects_of_mem_overrides {override : OptionId × OptionKey}
    (member : override ∈ context.overrides options) : context.selects override.2 := by
  obtain ⟨value, -, found⟩ := mem_overrides.1 member
  exact selects_of_override? found

theorem nodup_overrides (context : OptionContext) (options : BuildOptions) :
    (context.overrides options).Nodup := by
  have distinct : options.entries.Pairwise fun entry other => entry.1 ≠ other.1 :=
    List.pairwise_map.1 options.nodup_keys
  refine distinct.filterMap _ ?_
  intro entry other differ override here override' there same
  obtain ⟨key, -, rfl⟩ := Option.map_eq_some_iff.1 here
  obtain ⟨key', -, rfl⟩ := Option.map_eq_some_iff.1 there
  exact differ (Prod.mk.inj same).1

theorem replacing_eq_ok {entries : List (OptionId × String)} {found : List (OptionId × OptionKey)}
    (ok : context.replacing entries = .ok found) :
    found = entries.filterMap fun entry => (context.override? entry).map (entry.1, ·) := by
  induction entries generalizing found with
  | nil => exact (Except.ok.inj ok).symm
  | cons entry rest ih =>
    obtain ⟨id, value⟩ := entry
    unfold replacing at ok
    split at ok
    · rename_i replaces
      obtain ⟨key, read, ok⟩ := Checked.bind_eq_ok.1 ok
      obtain ⟨others, later, ok⟩ := Checked.bind_eq_ok.1 ok
      obtain rfl := Checked.pure_eq_ok.1 ok
      rw [OptionKey.read_eq_ok] at read
      rw [List.filterMap_cons, ← ih later, override?, if_pos replaces, read, Option.filter_some]
      cases context.selects key <;> rfl
    · rename_i passes
      rw [ih ok, List.filterMap_cons, override?, if_neg passes]
      rfl

theorem dropShadowed_eq_ok (ok : context.dropShadowed options = .ok left) :
    left = options.filter fun id _ => id ∉ shadowed (context.overrides options) := by
  obtain ⟨found, replacing, ok⟩ := Checked.bind_eq_ok.1 ok
  obtain rfl := Checked.pure_eq_ok.1 ok
  rw [replacing_eq_ok replacing]
  rfl

/-- Of two overrides that overlap, the one with the lower priority yields, and of two with the same
priority the one that stands first. -/
structure Yields (overrides : List (OptionId × OptionKey)) (loser winner : OptionId × OptionKey) :
    Prop where
  loser_mem : loser ∈ overrides
  winner_mem : winner ∈ overrides
  overlaps : loser.2.overlaps winner.2
  lower : loser.2.priority < winner.2.priority ∨
    loser.2.priority = winner.2.priority ∧ overrides.idxOf loser < overrides.idxOf winner

def rank (overrides : List (OptionId × OptionKey)) (override : OptionId × OptionKey) : ℕ ×ₗ ℕ :=
  toLex (override.2.priority, overrides.idxOf override)

section Yields

variable {overrides : List (OptionId × OptionKey)} {first loser winner other : OptionId × OptionKey}

theorem rank_lt_iff : rank overrides loser < rank overrides winner ↔
    loser.2.priority < winner.2.priority ∨
      loser.2.priority = winner.2.priority ∧ overrides.idxOf loser < overrides.idxOf winner :=
  Prod.Lex.toLex_lt_toLex

theorem Yields.priority_le (yields : Yields overrides loser winner) :
    loser.2.priority ≤ winner.2.priority := by
  rcases yields.lower with less | ⟨same, -⟩
  · exact less.le
  · exact same.le

theorem rank_injective (here : loser ∈ overrides) (same : rank overrides loser = rank overrides winner) :
    loser = winner := by
  have place : overrides.idxOf loser = overrides.idxOf winner := congrArg (fun rank => (ofLex rank).2) same
  exact (List.idxOf_inj here).1 place

theorem yields_cons_iff (new : first ∉ overrides) : Yields (first :: overrides) loser winner ↔
    loser = first ∧ winner ∈ overrides ∧ first.2.overlaps winner.2 ∧ ¬ winner.2.priority < first.2.priority ∨
      winner = first ∧ loser ∈ overrides ∧ first.2.overlaps loser.2 ∧ loser.2.priority < first.2.priority ∨
      Yields overrides loser winner := by
  have behind {one : OptionId × OptionKey} (member : one ∈ overrides) :
      (first :: overrides).idxOf one = overrides.idxOf one + 1 :=
    List.idxOf_cons_ne _ fun same => new (same ▸ member)
  constructor
  · rintro ⟨here, there, overlaps, lower⟩
    rcases List.mem_cons.1 here with rfl | loserBehind <;>
      rcases List.mem_cons.1 there with rfl | winnerBehind
    · simp at lower
    · exact .inl ⟨rfl, winnerBehind, overlaps, by omega⟩
    · rw [List.idxOf_cons_self] at lower
      exact .inr (.inl ⟨rfl, loserBehind, OptionKey.overlaps_comm.1 overlaps, by omega⟩)
    · rw [behind loserBehind, behind winnerBehind, Nat.add_lt_add_iff_right] at lower
      exact .inr (.inr ⟨loserBehind, winnerBehind, overlaps, lower⟩)
  · rintro (⟨rfl, there, overlaps, lower⟩ | ⟨rfl, here, overlaps, lower⟩ | ⟨here, there, overlaps, lower⟩)
    · refine ⟨by simp, List.mem_cons_of_mem _ there, overlaps, ?_⟩
      rw [List.idxOf_cons_self, behind there]
      omega
    · exact ⟨List.mem_cons_of_mem _ here, by simp, OptionKey.overlaps_comm.1 overlaps, .inl lower⟩
    · refine ⟨List.mem_cons_of_mem _ here, List.mem_cons_of_mem _ there, overlaps, ?_⟩
      rwa [behind here, behind there, Nat.add_lt_add_iff_right]

theorem mem_shadowed_iff (nodup : overrides.Nodup) {id : OptionId} :
    id ∈ shadowed overrides ↔ ∃ loser winner, Yields overrides loser winner ∧ loser.1 = id := by
  induction overrides with
  | nil => exact iff_of_false List.not_mem_nil fun ⟨_, _, yields, _⟩ => nomatch yields.loser_mem
  | cons first rest ih =>
    obtain ⟨new, others⟩ := List.nodup_cons.1 nodup
    simp only [shadowed, List.mem_append, List.mem_map, List.mem_filter, ih others, yields_cons_iff new]
    constructor
    · rintro (⟨other, ⟨there, overlaps⟩, rfl⟩ | ⟨loser, winner, yields, rfl⟩)
      · split
        · rename_i lower
          exact ⟨other, first, .inr (.inl ⟨rfl, there, overlaps, lower⟩), rfl⟩
        · rename_i higher
          exact ⟨first, other, .inl ⟨rfl, there, overlaps, higher⟩, rfl⟩
      · exact ⟨loser, winner, .inr (.inr yields), rfl⟩
    · rintro ⟨loser, winner, ⟨rfl, there, overlaps, higher⟩ | ⟨rfl, here, overlaps, lower⟩ | yields, rfl⟩
      · exact .inl ⟨winner, ⟨there, overlaps⟩, if_neg higher⟩
      · exact .inl ⟨loser, ⟨here, overlaps⟩, if_pos lower⟩
      · exact .inr ⟨loser, winner, yields, rfl⟩

theorem Yields.of_rank_lt (here : loser ∈ overrides) (there : winner ∈ overrides)
    (overlaps : loser.2.overlaps winner.2) (lower : rank overrides loser < rank overrides winner) :
    Yields overrides loser winner :=
  ⟨here, there, overlaps, rank_lt_iff.1 lower⟩

theorem yields_or_yields (here : loser ∈ overrides) (there : winner ∈ overrides) (differ : loser ≠ winner)
    (overlaps : loser.2.overlaps winner.2) :
    Yields overrides loser winner ∨ Yields overrides winner loser := by
  rcases lt_trichotomy (rank overrides loser) (rank overrides winner) with lower | same | higher
  · exact .inl (.of_rank_lt here there overlaps lower)
  · exact absurd (rank_injective here same) differ
  · exact .inr (.of_rank_lt there here (OptionKey.overlaps_comm.1 overlaps) higher)

end Yields

theorem overlaps_iff_of_selects {key other : OptionKey} (here : context.selects key)
    (there : context.selects other) :
    key.overlaps other ↔ OptionKey.meets key.command other.command ∧ OptionKey.meets key.attr other.attr := by
  have field {a b own : String} (one : a = "*" ∨ a = own) (two : b = "*" ∨ b = own) :
      OptionKey.meets a b := by
    rw [OptionKey.meets_iff]
    rcases one with rfl | rfl
    · exact .inr (.inl rfl)
    · exact two.elim (fun any => .inr (.inr any)) fun same => .inl same.symm
  simp only [selects, Bool.and_eq_true, Bool.or_eq_true, decide_eq_true_eq] at here there
  rw [OptionKey.overlaps_iff, and_iff_right (field here.1.1 there.1.1),
    and_iff_right (field here.1.2 there.1.2), and_iff_right (field here.2 there.2)]

def passes (context : OptionContext) (entry : OptionId × String) : Bool :=
  entry.1.family ≠ context.buildRuleFamily || !Text.startsWith "=" entry.2 ||
    (OptionKey.ofText? entry.1.key).any fun key => !context.selects key

theorem override?_of_passes {entry : OptionId × String} (passes : context.passes entry) :
    context.override? entry = none := by
  unfold OptionContext.passes at passes
  unfold override?
  split
  · rename_i replaces
    obtain ⟨key, read, unselected⟩ : ∃ key, OptionKey.ofText? entry.1.key = some key ∧
        context.selects key = false := by simpa [replaces, Option.any_eq_true] using passes
    simp [read, Option.filter_some, unselected]
  · rfl

section Unyielding

variable {loser winner : OptionId × OptionKey}

/-- What an override yields to can yield in turn, but the last of them does not, unless the override is
for all attributes of a tool. -/
theorem exists_unyielding (yields : Yields (context.overrides options) loser winner)
    (general : loser.2.attr = "*" → loser.2.command = "*") :
    ∃ last, Yields (context.overrides options) loser last ∧
      ∀ other, ¬ Yields (context.overrides options) last other := by
  classical
  let winners := (context.overrides options).toFinset.filter (Yields (context.overrides options) loser)
  have mem_winners {one} : one ∈ winners ↔ Yields (context.overrides options) loser one := by
    simpa [winners] using Yields.winner_mem
  obtain ⟨last, member, highest⟩ :=
    winners.exists_max_image (rank (context.overrides options)) ⟨winner, mem_winners.2 yields⟩
  rw [mem_winners] at member
  refine ⟨last, member, fun other further => ?_⟩
  -- What the last one yields to would overlap the first one too, and come after the last one.
  have overlaps : loser.2.overlaps other.2 :=
    (overlaps_iff_of_selects (selects_of_mem_overrides yields.loser_mem)
      (selects_of_mem_overrides further.winner_mem)).2
      (OptionKey.meets_of_chain member.overlaps further.overlaps member.priority_le further.priority_le
        general)
  have higher := rank_lt_iff.2 further.lower
  have again := Yields.of_rank_lt yields.loser_mem further.winner_mem overlaps
    ((rank_lt_iff.2 member.lower).trans higher)
  exact absurd (highest other (mem_winners.2 again)) (not_le.2 higher)

theorem yields_of_named (here : loser ∈ context.overrides options)
    (there : winner ∈ context.overrides options) (attr : loser.2.attr = "*")
    (named : winner.2.attr ≠ "*") (command : winner.2.command = loser.2.command) :
    Yields (context.overrides options) loser winner := by
  refine ⟨here, there, ?_, .inl ?_⟩
  · rw [overlaps_iff_of_selects (selects_of_mem_overrides here) (selects_of_mem_overrides there),
      OptionKey.meets_iff, OptionKey.meets_iff]
    exact ⟨.inl command.symm, .inr (.inl attr)⟩
  · rw [← OptionKey.priority_eq_zero_iff] at attr
    rw [ne_eq, ← OptionKey.priority_eq_zero_iff] at named
    omega

/-- An override for all attributes of a tool that is dropped for nothing: it yields to others, as they are
for all tools or for all attributes, and all of them yield in turn. -/
structure Stranded (overrides : List (OptionId × OptionKey)) (loser : OptionId × OptionKey) : Prop where
  attr : loser.2.attr = "*"
  command : loser.2.command ≠ "*"
  unnamed : ∀ other ∈ overrides, other.2.command = loser.2.command → other.2.attr = "*"
  yielding : ∀ winner, Yields overrides loser winner → ∃ other, Yields overrides winner other

theorem general_of_yielding (yields : Yields (context.overrides options) loser winner)
    (yielding : ∀ winner, Yields (context.overrides options) loser winner →
      ∃ other, Yields (context.overrides options) winner other) :
    loser.2.attr = "*" ∧ loser.2.command ≠ "*" ∧
      ∀ other ∈ context.overrides options, other.2.command = loser.2.command → other.2.attr = "*" := by
  have special : ¬ (loser.2.attr = "*" → loser.2.command = "*") := by
    intro general
    obtain ⟨last, member, unyielding⟩ := exists_unyielding yields general
    obtain ⟨other, further⟩ := yielding last member
    exact unyielding other further
  rw [Classical.not_imp] at special
  obtain ⟨attr, command⟩ := special
  refine ⟨attr, command, fun other listed sameCommand => ?_⟩
  by_contra named
  -- Of the overrides for that tool and some attribute one is left, and it would be enough.
  obtain ⟨_, further⟩ := yielding other (yields_of_named yields.loser_mem listed attr named sameCommand)
  obtain ⟨last, member, unyielding⟩ := exists_unyielding further fun anyAttr => absurd anyAttr named
  have lastNamed := OptionKey.attr_ne_of_le member.priority_le named
  have lastTool := OptionKey.command_ne_of_le member.priority_le named (sameCommand ▸ command)
  have met := (OptionKey.overlaps_iff.1 member.overlaps).2.2.2.1
  rw [OptionKey.meets_iff, sameCommand] at met
  have lastCommand : last.2.command = loser.2.command :=
    (met.resolve_right (not_or.2 ⟨command, lastTool⟩)).symm
  obtain ⟨next, again⟩ :=
    yielding last (yields_of_named yields.loser_mem member.winner_mem attr lastNamed lastCommand)
  exact unyielding next again

end Unyielding

section Dropped

variable (ok : context.dropShadowed options = .ok left)
include ok

theorem sublist_of_dropShadowed : left.entries.Sublist options.entries := by
  rw [dropShadowed_eq_ok ok]
  exact List.filter_sublist

theorem mem_dropShadowed_iff {entry : OptionId × String} (listed : entry ∈ options.entries) :
    entry ∈ left.entries ↔ ∀ key ∈ context.override? entry, ∀ winner,
      ¬ Yields (context.overrides options) (entry.1, key) winner := by
  obtain ⟨id, value⟩ := entry
  have kept : (id, value) ∈ left.entries ↔ id ∉ shadowed (context.overrides options) := by
    rw [dropShadowed_eq_ok ok]
    simp [Table.filter, listed]
  rw [kept, mem_shadowed_iff (nodup_overrides context options)]
  constructor
  · intro unyielding key _ winner yields
    exact unyielding ⟨_, winner, yields, rfl⟩
  · rintro unyielding ⟨⟨_, key⟩, winner, yields, rfl⟩
    obtain ⟨text, there, found⟩ := mem_overrides.1 yields.loser_mem
    obtain ⟨-, rfl⟩ := Prod.mk.inj (List.inj_on_of_nodup_map options.nodup_keys there listed rfl)
    exact unyielding key found winner yields

/-- No two of the overrides that are left overlap, and the options that are none are all left, in order. -/
theorem dropShadowed_disjoint :
    (∀ entry ∈ left.entries, ∀ other ∈ left.entries, entry ≠ other →
        ∀ key ∈ context.override? entry, ∀ otherKey ∈ context.override? other, ¬ key.overlaps otherKey) ∧
      left.entries.Sublist options.entries ∧
      left.entries.filter context.passes = options.entries.filter context.passes := by
  have sublist := sublist_of_dropShadowed ok
  refine ⟨?_, sublist, ?_⟩
  · intro entry here other there differ key found otherKey otherFound overlaps
    have listed := sublist.subset here
    have otherListed := sublist.subset there
    have distinct : (entry.1, key) ≠ (other.1, otherKey) := fun same =>
      differ (List.inj_on_of_nodup_map options.nodup_keys listed otherListed (Prod.mk.inj same).1)
    rcases yields_or_yields (mem_overrides.2 ⟨_, listed, found⟩)
        (mem_overrides.2 ⟨_, otherListed, otherFound⟩) distinct overlaps with yields | yields
    · exact (mem_dropShadowed_iff ok listed).1 here key found _ yields
    · exact (mem_dropShadowed_iff ok otherListed).1 there otherKey otherFound _ yields
  · have keeps : ∀ entry ∈ options.entries, context.passes entry → entry ∈ left.entries := by
      intro entry listed passes
      simp [mem_dropShadowed_iff ok listed, override?_of_passes passes]
    rw [dropShadowed_eq_ok ok] at keeps ⊢
    simp only [Table.filter, List.filter_filter] at keeps ⊢
    refine List.filter_congr fun entry listed => ?_
    cases passes : context.passes entry with
    | false => rfl
    | true => simpa using (List.mem_filter.1 (keeps entry listed passes)).2

/-- Some override that is left overlaps the key and has no lower priority. -/
def Outlived (context : OptionContext) (left : BuildOptions) (key : OptionKey) : Prop :=
  ∃ winner ∈ left.entries, ∃ winnerKey ∈ context.override? winner,
    winnerKey.overlaps key ∧ key.priority ≤ winnerKey.priority

omit ok in
instance (context : OptionContext) (left : BuildOptions) (key : OptionKey) :
    Decidable (context.Outlived left key) := inferInstanceAs (Decidable (∃ _ ∈ _, ∃ _ ∈ _, _))

theorem outlived_iff {entry : OptionId × String} {key : OptionKey} (listed : entry ∈ options.entries)
    (gone : entry ∉ left.entries) (found : context.override? entry = some key) :
    context.Outlived left key ↔ ∃ winner, Yields (context.overrides options) (entry.1, key) winner ∧
      ∀ other, ¬ Yields (context.overrides options) winner other := by
  constructor
  · rintro ⟨winner, member, winnerKey, winnerFound, overlaps, -⟩
    have winnerListed := (sublist_of_dropShadowed ok).subset member
    have unyielding := (mem_dropShadowed_iff ok winnerListed).1 member winnerKey winnerFound
    have distinct : (entry.1, key) ≠ (winner.1, winnerKey) := by
      intro same
      have same := List.inj_on_of_nodup_map options.nodup_keys listed winnerListed (Prod.mk.inj same).1
      exact gone (same ▸ member)
    refine ⟨(winner.1, winnerKey), ?_, unyielding⟩
    exact (yields_or_yields (mem_overrides.2 ⟨_, listed, found⟩)
      (mem_overrides.2 ⟨_, winnerListed, winnerFound⟩) distinct
      (OptionKey.overlaps_comm.1 overlaps)).resolve_right (unyielding _)
  · rintro ⟨⟨id, winnerKey⟩, yields, unyielding⟩
    obtain ⟨value, winnerListed, winnerFound⟩ := mem_overrides.1 yields.winner_mem
    refine ⟨(id, value), ?_, winnerKey, winnerFound, OptionKey.overlaps_comm.1 yields.overlaps,
      yields.priority_le⟩
    rw [mem_dropShadowed_iff ok winnerListed]
    intro other otherFound
    obtain rfl := Option.some.inj (winnerFound.symm.trans otherFound)
    exact unyielding

/-- Only an override for all attributes of a tool can be dropped without one that outlives it, and only where
no other override names an attribute of that tool. -/
theorem general_of_not_outlived {entry : OptionId × String} {key : OptionKey}
    (listed : entry ∈ options.entries) (gone : entry ∉ left.entries)
    (found : context.override? entry = some key) (lost : ¬ context.Outlived left key) :
    key.attr = "*" ∧ key.command ≠ "*" ∧
      ∀ other ∈ context.overrides options, other.2.command = key.command → other.2.attr = "*" := by
  rw [outlived_iff ok listed gone found] at lost
  push Not at lost
  rw [mem_dropShadowed_iff ok listed] at gone
  push Not at gone
  obtain ⟨other, otherFound, winner, yields⟩ := gone
  obtain rfl := Option.some.inj (found.symm.trans otherFound)
  exact general_of_yielding yields lost

/-- An option is dropped exactly if it is an override that yields to another one. Among those it yields to
one is left in the end, exactly unless it is stranded. -/
theorem dropShadowed_outlived_iff :
    ∀ entry ∈ options.entries,
      (entry ∉ left.entries ↔ ∃ key ∈ context.override? entry, ∃ winner,
        Yields (context.overrides options) (entry.1, key) winner) ∧
      (entry ∉ left.entries → ∀ key ∈ context.override? entry,
        (context.Outlived left key ↔ ¬ Stranded (context.overrides options) (entry.1, key))) := by
  intro entry listed
  have dropped : entry ∉ left.entries ↔ ∃ key ∈ context.override? entry, ∃ winner,
      Yields (context.overrides options) (entry.1, key) winner := by
    rw [mem_dropShadowed_iff ok listed]
    push Not
    rfl
  refine ⟨dropped, fun gone key found => ?_⟩
  constructor
  · intro outlived stranded
    obtain ⟨winner, yields, unyielding⟩ := (outlived_iff ok listed gone found).1 outlived
    obtain ⟨other, further⟩ := stranded.yielding winner yields
    exact unyielding other further
  · intro unstranded
    by_contra lost
    obtain ⟨attr, command, unnamed⟩ := general_of_not_outlived ok listed gone found lost
    rw [outlived_iff ok listed gone found] at lost
    push Not at lost
    exact unstranded ⟨attr, command, unnamed, lost⟩

end Dropped

def mixedOptions : BuildOptions :=
  .ofList [(⟨"GCC", "*_*_*_CC_FLAGS"⟩, "=-O1"), (⟨"MSFT", "*_*_*_CC_FLAGS"⟩, "=/Od"),
    (⟨"GCC", "DEBUG_*_*_CC_FLAGS"⟩, "=-O0"), (⟨"GCC", "RELEASE_*_*_CC_FLAGS"⟩, "=-O2"),
    (⟨"GCC", "*_*_X64_CC_FLAGS"⟩, "-m64"), (⟨"GCC", "*_*_*_DLINK_FLAGS"⟩, "=-s")]

theorem dropShadowed_disjoint_mixed :
    let left : BuildOptions := .ofList mixedOptions.entries.tail
    compilerContext.dropShadowed mixedOptions = .ok left ∧
      ¬ (⟨"DEBUG", "*", "*", "CC", "FLAGS"⟩ : OptionKey).overlaps ⟨"*", "*", "*", "DLINK", "FLAGS"⟩ ∧
      left.entries.Sublist mixedOptions.entries ∧
      left.entries.filter compilerContext.passes = mixedOptions.entries.filter compilerContext.passes := by
  intro left
  have ok : compilerContext.dropShadowed mixedOptions = .ok left := rfl
  obtain ⟨disjoint, sublist, others⟩ := dropShadowed_disjoint ok
  have apart := disjoint (⟨"GCC", "DEBUG_*_*_CC_FLAGS"⟩, "=-O0") (by decide +kernel)
    (⟨"GCC", "*_*_*_DLINK_FLAGS"⟩, "=-s") (by decide +kernel) (by decide) _ rfl _ rfl
  exact ⟨ok, apart, sublist, others⟩

def chainedOptions : BuildOptions :=
  .ofList [(⟨"GCC", "*_*_*_CC_*"⟩, "=-Os"), (⟨"GCC", "*_*_*_*_FLAGS"⟩, "=-O0"),
    (⟨"GCC", "*_*_*_DLINK_FLAGS"⟩, "=-s")]

/-- The replacement of the flags of all tools is dropped for the later one of the flags of one tool. -/
theorem dropShadowed_outlived_chained :
    let left : BuildOptions := .ofList [(⟨"GCC", "*_*_*_DLINK_FLAGS"⟩, "=-s")]
    compilerContext.dropShadowed chainedOptions = .ok left ∧
      (⟨"GCC", "*_*_*_*_FLAGS"⟩, "=-O0") ∉ left.entries ∧
      compilerContext.Outlived left ⟨"*", "*", "*", "*", "FLAGS"⟩ := by
  intro left
  have ok : compilerContext.dropShadowed chainedOptions = .ok left := rfl
  have gone : (⟨"GCC", "*_*_*_*_FLAGS"⟩, "=-O0") ∉ left.entries := by decide +kernel
  obtain ⟨-, outlived⟩ := dropShadowed_outlived_iff ok (⟨"GCC", "*_*_*_*_FLAGS"⟩, "=-O0") (by decide +kernel)
  exact ⟨ok, gone, (outlived gone _ rfl).2 fun stranded => absurd stranded.attr (by decide)⟩

/-- The replacement for all attributes of a tool is dropped for that of the flags of all tools, which is
dropped itself. -/
theorem dropShadowed_chained_stranded :
    let left : BuildOptions := .ofList [(⟨"GCC", "*_*_*_DLINK_FLAGS"⟩, "=-s")]
    let key : OptionKey := ⟨"*", "*", "*", "CC", "*"⟩
    compilerContext.dropShadowed chainedOptions = .ok left ∧
      (⟨"GCC", "*_*_*_CC_*"⟩, "=-Os") ∈ chainedOptions.entries ∧
      compilerContext.override? (⟨"GCC", "*_*_*_CC_*"⟩, "=-Os") = some key ∧
      ¬ compilerContext.Outlived left key ∧
      compilerContext.expand chainedOptions = .ok (.ofList [("DLINK", .ofList [("FLAGS", "=-s")])]) :=
  ⟨rfl, by decide +kernel, rfl, by decide +kernel, rfl⟩

end OptionContext

end UefiBuild
