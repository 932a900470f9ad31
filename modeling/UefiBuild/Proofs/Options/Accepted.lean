import UefiBuild.Proofs.Failing
import UefiBuild.Proofs.Options.Shadowing

namespace UefiBuild.OptionContext

variable {context : OptionContext} {options left : BuildOptions}

theorem fails_read_iff {text : String} :
    Checked.Fails (OptionKey.read text) ↔ OptionKey.ofText? text = none := by
  unfold OptionKey.read
  cases OptionKey.ofText? text <;> simp [Checked.Fails]

theorem fails_replacing_iff {entries : List (OptionId × String)} :
    Checked.Fails (context.replacing entries) ↔ ∃ entry ∈ entries,
      (entry.1.family = context.buildRuleFamily ∧ Text.startsWith "=" entry.2) ∧
        OptionKey.ofText? entry.1.key = none := by
  induction entries with
  | nil => exact iff_of_false (Checked.not_fails_ok _) (by simp)
  | cons entry rest ih =>
    obtain ⟨id, value⟩ := entry
    rw [List.exists_mem_cons_iff, ← ih]
    rw [replacing]
    split
    · rename_i replaces
      rw [Checked.fails_bind_iff, fails_read_iff, and_iff_right replaces]
      cases read : OptionKey.ofText? id.key with
      | none => simp
      | some key =>
        have ok : OptionKey.read id.key = .ok key := OptionKey.read_eq_ok.2 read
        simp [ok, Checked.fails_bind_iff, Checked.not_fails_ok, pure, Except.pure]
    · rename_i passes
      simp [passes]

theorem fails_dropShadowed_iff :
    Checked.Fails (context.dropShadowed options) ↔ ∃ entry ∈ options.entries,
      (entry.1.family = context.buildRuleFamily ∧ Text.startsWith "=" entry.2) ∧
        OptionKey.ofText? entry.1.key = none := by
  rw [dropShadowed, Checked.fails_bind_iff, fails_replacing_iff]
  simp [Checked.not_fails_ok, pure, Except.pure]

theorem fails_keyed_iff :
    Checked.Fails (keyed options) ↔ ∃ id ∈ options.keys, OptionKey.ofText? id.key = none := by
  rw [keyed, Checked.fails_mapM_iff]
  simp only [Table.keys, List.mem_map, exists_exists_and_eq_and, bind_pure_comp, Checked.fails_map_iff,
    fails_read_iff]

/-- An option that cannot be read replaces nothing and yields to nothing, so the later passes see it. -/
theorem mem_keys_of_unread (ok : context.dropShadowed options = .ok left) {id : OptionId}
    (listed : id ∈ options.keys) (unread : OptionKey.ofText? id.key = none) : id ∈ left.keys := by
  obtain ⟨⟨_, value⟩, member, rfl⟩ := List.mem_map.1 listed
  refine List.mem_map.2 ⟨_, (mem_dropShadowed_iff ok member).2 fun key found => ?_, rfl⟩
  rw [override?, unread] at found
  split at found <;> cases found

/-- Options are refused exactly if some key does not have its five fields, wherever it stands and
whatever the option would do. -/
theorem fails_expand_iff : Checked.Fails (context.expand options) ↔
    ∃ id ∈ options.keys, (Text.split '_' id.key).length ≠ 5 := by
  have steps : Checked.Fails (context.expand options) ↔ Checked.Fails (context.dropShadowed options) ∨
      ∃ left, context.dropShadowed options = .ok left ∧ Checked.Fails (keyed left) := by
    rw [expand, Checked.fails_bind_iff]
    simp only [bind_pure_comp, Checked.fails_map_iff]
  simp only [steps, ← OptionKey.ofText?_eq_none_iff]
  constructor
  · rintro (failed | ⟨left, ok, failed⟩)
    · obtain ⟨entry, listed, -, unread⟩ := fails_dropShadowed_iff.1 failed
      exact ⟨entry.1, List.mem_map_of_mem listed, unread⟩
    · obtain ⟨id, listed, unread⟩ := fails_keyed_iff.1 failed
      exact ⟨id, ((sublist_of_dropShadowed ok).map Prod.fst).subset listed, unread⟩
  · rintro ⟨id, listed, unread⟩
    cases ok : context.dropShadowed options with
    | error failure => exact .inl (Checked.fails_error failure)
    | ok left => exact .inr ⟨left, rfl, fails_keyed_iff.2 ⟨id, mem_keys_of_unread ok listed unread, unread⟩⟩

end UefiBuild.OptionContext
