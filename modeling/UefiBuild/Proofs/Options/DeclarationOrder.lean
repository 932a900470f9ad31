import UefiBuild.Proofs.Options.Accepted

namespace UefiBuild

namespace OptionKey

variable {key other : OptionKey} {a b : String}

def given (field : String) : Nat := if field = "*" then 0 else 1

theorem given_le (field : String) : given field ≤ 1 := by
  unfold given
  split <;> omega

theorem wild_iff_of_given_eq (same : given a = given b) : a = "*" ↔ b = "*" := by
  unfold given at same
  by_cases left : a = "*" <;> by_cases right : b = "*" <;> simp_all

theorem priority_eq (attr : key.attr ≠ "*") :
    key.priority =
      8 * given key.command + 4 * given key.arch + 2 * given key.toolchain + given key.target + 1 := by
  have weight (field : String) (n : Nat) : (if field = "*" then 0 else n) = n * given field := by
    unfold given
    split <;> simp
  simp only [priority, attr, if_false, weight, Nat.one_mul]

theorem eq_of_meets (met : meets a b) (wild : a = "*" ↔ b = "*") : a = b := by
  rcases meets_iff.1 met with same | any | any
  · exact same
  · rw [any, wild.1 any]
  · rw [any, wild.2 any]

/-- Two keys for one attribute that overlap have different priorities. -/
theorem eq_of_overlaps (overlaps : key.overlaps other) (attr : key.attr ≠ "*")
    (otherAttr : other.attr ≠ "*") (same : key.priority = other.priority) : key = other := by
  obtain ⟨target, toolchain, arch, command, field⟩ := overlaps_iff.1 overlaps
  rw [priority_eq attr, priority_eq otherAttr] at same
  have bounds (of : OptionKey → String) := And.intro (given_le (of key)) (given_le (of other))
  have commands := bounds OptionKey.command
  have arches := bounds OptionKey.arch
  have toolchains := bounds OptionKey.toolchain
  have targets := bounds OptionKey.target
  -- The weights are powers of two, so the priority tells which fields are given.
  have sameCommand : given key.command = given other.command := by omega
  have sameArch : given key.arch = given other.arch := by omega
  have sameToolchain : given key.toolchain = given other.toolchain := by omega
  have sameTarget : given key.target = given other.target := by omega
  have fields : key.target = other.target ∧ key.toolchain = other.toolchain ∧ key.arch = other.arch ∧
      key.command = other.command ∧ key.attr = other.attr :=
    ⟨eq_of_meets target (wild_iff_of_given_eq sameTarget),
      eq_of_meets toolchain (wild_iff_of_given_eq sameToolchain),
      eq_of_meets arch (wild_iff_of_given_eq sameArch),
      eq_of_meets command (wild_iff_of_given_eq sameCommand),
      eq_of_meets field (iff_of_false attr otherAttr)⟩
  cases key
  cases other
  simpa using fields

end OptionKey

namespace OptionContext

variable {context : OptionContext} {options other left : BuildOptions}

theorem override?_eq_some {entry : OptionId × String} {key : OptionKey}
    (found : context.override? entry = some key) :
    entry.1.family = context.buildRuleFamily ∧ OptionKey.ofText? entry.1.key = some key := by
  unfold override? at found
  split at found
  · rename_i replaces
    exact ⟨replaces.1, (Option.filter_eq_some_iff.1 found).1⟩
  · cases found

theorem eq_of_mem_overrides {one two : OptionId × OptionKey} (here : one ∈ context.overrides options)
    (there : two ∈ context.overrides options) (same : one.2 = two.2) : one = two := by
  obtain ⟨_, -, found⟩ := mem_overrides.1 here
  obtain ⟨_, -, found'⟩ := mem_overrides.1 there
  obtain ⟨family, read⟩ := override?_eq_some found
  obtain ⟨family', read'⟩ := override?_eq_some found'
  -- Both are of the build rule family, so the keys are all that their names can differ in.
  have name : one.1 = two.1 := by
    rw [OptionId.mk.injEq]
    exact ⟨family.trans family'.symm, OptionKey.ofText?_inj read (same ▸ read')⟩
  exact Prod.ext name same

section Named

variable (named : ∀ override ∈ context.overrides options, override.2.attr ≠ "*")
include named

theorem yields_iff_lower {loser winner : OptionId × OptionKey} :
    Yields (context.overrides options) loser winner ↔
      loser ∈ context.overrides options ∧ winner ∈ context.overrides options ∧
        loser.2.overlaps winner.2 ∧ loser.2.priority < winner.2.priority := by
  constructor
  · rintro ⟨here, there, overlaps, lower | ⟨same, earlier⟩⟩
    · exact ⟨here, there, overlaps, lower⟩
    · -- Equal priorities mean one and the same override, which does not stand before itself.
      have keys := OptionKey.eq_of_overlaps overlaps (named loser here) (named winner there) same
      rw [eq_of_mem_overrides here there keys] at earlier
      exact absurd earlier (Nat.lt_irrefl _)
  · rintro ⟨here, there, overlaps, lower⟩
    exact ⟨here, there, overlaps, .inl lower⟩

theorem mem_dropShadowed_iff_of_named (ok : context.dropShadowed options = .ok left)
    {entry : OptionId × String} (listed : entry ∈ options.entries) :
    entry ∈ left.entries ↔ ∀ key ∈ context.override? entry, ∀ winner ∈ context.overrides options,
      key.overlaps winner.2 → ¬ key.priority < winner.2.priority := by
  rw [mem_dropShadowed_iff ok listed]
  refine forall₂_congr fun key found => forall_congr' fun winner => ?_
  rw [yields_iff_lower named, and_iff_right (mem_overrides.2 ⟨entry.2, listed, found⟩)]
  simp only [not_and]

end Named

/-- Where each override is for one attribute, it does not matter in which order the options are declared:
the same ones are left. -/
theorem dropShadowed_order_free (perm : options.entries.Perm other.entries)
    (named : ∀ override ∈ context.overrides options, override.2.attr ≠ "*") :
    (Checked.Fails (context.dropShadowed options) ↔ Checked.Fails (context.dropShadowed other)) ∧
      ∀ left left', context.dropShadowed options = .ok left → context.dropShadowed other = .ok left' →
        left.entries.Perm left'.entries := by
  have overrides : (context.overrides options).Perm (context.overrides other) := perm.filterMap _
  have named' : ∀ override ∈ context.overrides other, override.2.attr ≠ "*" := fun override member =>
    named override (overrides.mem_iff.2 member)
  refine ⟨?_, fun left left' ok ok' => ?_⟩
  · rw [fails_dropShadowed_iff, fails_dropShadowed_iff]
    exact exists_congr fun entry => and_congr_left fun _ => perm.mem_iff
  · rw [List.perm_ext_iff_of_nodup left.nodup_entries left'.nodup_entries]
    intro entry
    have here := (sublist_of_dropShadowed ok).subset (a := entry)
    have there := (sublist_of_dropShadowed ok').subset (a := entry)
    by_cases listed : entry ∈ options.entries
    · rw [mem_dropShadowed_iff_of_named named ok listed,
        mem_dropShadowed_iff_of_named named' ok' (perm.mem_iff.1 listed)]
      simp only [overrides.mem_iff]
    · exact iff_of_false (mt here listed) (mt (fun member => perm.mem_iff.2 (there member)) listed)

theorem dropShadowed_order_free_mixed :
    let reversed : BuildOptions := .ofList mixedOptions.entries.reverse
    let left : BuildOptions := .ofList mixedOptions.entries.tail
    mixedOptions.entries.Perm reversed.entries ∧
      (∀ override ∈ compilerContext.overrides mixedOptions, override.2.attr ≠ "*") ∧
      compilerContext.dropShadowed mixedOptions = .ok left ∧
      ∃ left', compilerContext.dropShadowed reversed = .ok left' ∧ left.entries.Perm left'.entries := by
  intro reversed left
  have perm : mixedOptions.entries.Perm reversed.entries := by decide +kernel
  have named : ∀ override ∈ compilerContext.overrides mixedOptions, override.2.attr ≠ "*" := by
    decide +kernel
  have ok : compilerContext.dropShadowed mixedOptions = .ok left := rfl
  obtain ⟨-, same⟩ := dropShadowed_order_free perm named
  exact ⟨perm, named, ok, _, rfl, same _ _ ok rfl⟩

/-- Of two overrides for all attributes the one that is declared last is left. -/
example :
    let general : OptionId × String := (⟨"GCC", "*_*_*_CC_*"⟩, "=-O0")
    let debug : OptionId × String := (⟨"GCC", "DEBUG_*_*_CC_*"⟩, "=-O1")
    compilerContext.dropShadowed (.ofList [general, debug]) = .ok (.ofList [debug]) ∧
      compilerContext.dropShadowed (.ofList [debug, general]) = .ok (.ofList [general]) := ⟨rfl, rfl⟩

end OptionContext

end UefiBuild
