import UefiBuild.Proofs.Options.Layering

namespace UefiBuild.OptionContext

variable {context : OptionContext} {options : BuildOptions} {all : List KeyedOption}
  {expanded : ToolOptions}

theorem keyed_eq_ok : keyed options = .ok all ↔
    List.Forall₂ (fun entry option => OptionKey.ofText? entry.1.key = some option.key ∧
      option.family = entry.1.family ∧ option.value = entry.2) options.entries all := by
  rw [keyed, Checked.mapM_eq_ok]
  refine iff_of_eq (congrArg (List.Forall₂ · options.entries all) ?_)
  funext ⟨id, value⟩ option
  obtain ⟨family, key, text⟩ := option
  simp only [Checked.bind_eq_ok, Checked.pure_eq_ok, OptionKey.read_eq_ok, KeyedOption.mk.injEq,
    eq_iff_iff]
  constructor
  · rintro ⟨_, read, rfl, rfl, rfl⟩
    exact ⟨read, rfl, rfl⟩
  · rintro ⟨read, rfl, rfl⟩
    exact ⟨key, read, rfl, rfl, rfl⟩

theorem nodup_of_keyed (read : keyed options = .ok all) : all.Nodup := by
  have names := options.nodup_keys
  have pairs := keyed_eq_ok.1 read
  clear read
  generalize options.entries = entries at names pairs
  induction pairs with
  | nil => exact List.nodup_nil
  | @cons entry option rest others here pairs ih =>
    obtain ⟨new, names⟩ := List.nodup_cons.1 names
    refine List.nodup_cons.2 ⟨fun member => new ?_, ih names⟩
    obtain ⟨other, listed, key, family, -⟩ := exists_of_mem_forall₂ pairs member
    have same : entry.1 = other.1 := by
      rw [OptionId.mk.injEq]
      exact ⟨here.2.1.symm.trans family, OptionKey.ofText?_inj here.1 key⟩
    exact same ▸ List.mem_map_of_mem listed

theorem nodup_contributing (nodup : all.Nodup) : (context.contributing all).Nodup := by
  by_cases decided : context.Decided all
  · rw [contributing_of_decided decided]
    exact nodup.filter _
  · rw [contributing_of_not_decided decided, List.nodup_append]
    refine ⟨nodup.filter _, nodup.filter _, ?_⟩
    rintro option ungated _ gated rfl
    simp only [List.mem_filter, Bool.and_eq_true, Bool.not_eq_true'] at ungated gated
    exact absurd gated.2.2.1 (by simp [ungated.2.2])

/-- The options that are left after shadowing are merged each at most once: those for every family and
those of a wanted family, or else those for every family and after them those of the tool's own one. -/
theorem expand_by_families (ok : context.expand options = .ok expanded) :
    ∃ left all merged, context.dropShadowed options = .ok left ∧ keyed left = .ok all ∧
      expanded = mergeAll ∅ merged ∧ merged.Nodup ∧
      (context.Decided all → merged =
        all.filter fun o => context.selects o.key && (!context.gates o || context.wants o)) ∧
      (¬ context.Decided all → merged =
        (all.filter fun o => context.selects o.key && !context.gates o) ++
          all.filter fun o => context.selects o.key && (context.gates o && context.ofOwnFamily o)) ∧
      ∀ tool attr, expanded.value? tool attr = slotText attr (slotValues merged tool attr) := by
  obtain ⟨merged, contributed, rfl⟩ := expand_eq_ok ok
  obtain ⟨left, dropped, contributed⟩ := Checked.bind_eq_ok.1 contributed
  obtain ⟨all, read, contributed⟩ := Checked.bind_eq_ok.1 contributed
  obtain rfl := Checked.pure_eq_ok.1 contributed
  exact ⟨left, all, _, dropped, read, rfl, nodup_contributing (nodup_of_keyed read),
    contributing_of_decided, contributing_of_not_decided, value?_mergeAll_empty _⟩

/-- A tool whose build rules are of another family than the tool itself. -/
def gnuContext : OptionContext :=
  { compilerContext with
    buildRuleFamily := "GNU"
    tools := .ofList [("CC", .ofList [("FAMILY", "GCC"), ("BUILDRULEFAMILY", "GNU")])] }

def familyOptions : BuildOptions :=
  .ofList [(⟨"GCC", "*_*_*_CC_FLAGS"⟩, "-Wall"), (⟨"MSFT", "*_*_*_CC_FLAGS"⟩, "/W4"),
    (⟨"", "*_*_X64_CC_FLAGS"⟩, "-g"), (⟨"GCC", "RELEASE_*_*_CC_FLAGS"⟩, "-O2")]

def familyKeys : List KeyedOption :=
  [⟨"GCC", ⟨"*", "*", "*", "CC", "FLAGS"⟩, "-Wall"⟩,
    ⟨"MSFT", ⟨"*", "*", "*", "CC", "FLAGS"⟩, "/W4"⟩,
    ⟨"", ⟨"*", "*", "X64", "CC", "FLAGS"⟩, "-g"⟩,
    ⟨"GCC", ⟨"RELEASE", "*", "*", "CC", "FLAGS"⟩, "-O2"⟩]

def gccContext : OptionContext :=
  { gnuContext with tools := .ofList [("CC", .ofList [("FAMILY", "GCC")])] }

/-- What is for every family comes first, though it is declared later, unless the tool wants its own family
from the beginning. -/
theorem expand_by_families_fallback :
    let expanded : ToolOptions := .ofList [("CC", .ofList [("FLAGS", "-g -Wall")])]
    let inOrder : ToolOptions := .ofList [("CC", .ofList [("FLAGS", "-Wall -g")])]
    (gnuContext.expand familyOptions = .ok expanded ∧
      gnuContext.dropShadowed familyOptions = .ok familyOptions ∧
      keyed familyOptions = .ok familyKeys ∧ ¬ gnuContext.Decided familyKeys ∧
      ∃ merged, expanded = mergeAll ∅ merged ∧ merged.map (·.value) = ["-g", "-Wall"]) ∧
    gccContext.expand familyOptions = .ok inOrder ∧
      gccContext.dropShadowed familyOptions = .ok familyOptions ∧ gccContext.Decided familyKeys ∧
      ∃ merged, inOrder = mergeAll ∅ merged ∧ merged.map (·.value) = ["-Wall", "-g"] := by
  intro expanded inOrder
  have keys : keyed familyOptions = .ok familyKeys := rfl
  constructor
  · have ok : gnuContext.expand familyOptions = .ok expanded := rfl
    have unshadowed : gnuContext.dropShadowed familyOptions = .ok familyOptions := rfl
    have undecided : ¬ gnuContext.Decided familyKeys := mt decided_iff.1 (by decide +kernel)
    obtain ⟨left, all, merged, dropped, read, result, -, -, fallback, -⟩ := expand_by_families ok
    obtain rfl := Except.ok.inj (unshadowed.symm.trans dropped)
    obtain rfl := Except.ok.inj (keys.symm.trans read)
    exact ⟨ok, unshadowed, keys, undecided, merged, result, by rw [fallback undecided]; rfl⟩
  · have ok : gccContext.expand familyOptions = .ok inOrder := rfl
    have unshadowed : gccContext.dropShadowed familyOptions = .ok familyOptions := rfl
    have decided : gccContext.Decided familyKeys := decided_iff.2 (by decide +kernel)
    obtain ⟨left, all, merged, dropped, read, result, -, onePass, -, -⟩ := expand_by_families ok
    obtain rfl := Except.ok.inj (unshadowed.symm.trans dropped)
    obtain rfl := Except.ok.inj (keys.symm.trans read)
    exact ⟨ok, unshadowed, decided, merged, result, by rw [onePass decided]; rfl⟩

/-- One option of the family that the build rules want is enough to leave out the tool's own family. -/
example :
    gnuContext.expand (.ofList ((⟨"GNU", "*_*_*_CC_FLAGS"⟩, "-Wextra") :: familyOptions.entries)) =
      .ok (.ofList [("CC", .ofList [("FLAGS", "-Wextra -g")])]) := rfl

end UefiBuild.OptionContext
