import UefiBuild.Options.Key
import UefiBuild.Proofs.Text.Fields

namespace UefiBuild.OptionKey

variable {key : OptionKey} {text other : String}

theorem ofText?_eq_some_iff : ofText? text = some key ↔
    Text.split '_' text = [key.target, key.toolchain, key.arch, key.command, key.attr] := by
  unfold ofText?
  constructor
  · intro found
    split at found
    · rename_i fields
      obtain rfl := Option.some.inj found
      exact fields
    · cases found
  · intro fields
    rw [fields]

theorem ofText?_eq_none_iff : ofText? text = none ↔ (Text.split '_' text).length ≠ 5 := by
  unfold ofText?
  split
  · rename_i fields
    simp [fields]
  · rename_i unmatched
    refine iff_of_true rfl fun five => ?_
    match fields : Text.split '_' text, five with
    | [target, toolchain, arch, command, attr], _ => exact unmatched target toolchain arch command attr fields

theorem ofText?_inj (here : ofText? text = some key) (there : ofText? other = some key) : text = other :=
  Text.split_inj ((ofText?_eq_some_iff.1 here).trans (ofText?_eq_some_iff.1 there).symm)

theorem read_eq_ok : read text = .ok key ↔ ofText? text = some key := by
  unfold read
  cases ofText? text <;> simp

end UefiBuild.OptionKey
