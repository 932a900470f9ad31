import UefiBuild.Options.Expand
import UefiBuild.Proofs.Checked
import UefiBuild.Proofs.Options.Keys

namespace UefiBuild

theorem ToolOptions.value?_empty (tool attr : String) : value? ∅ tool attr = none := rfl

namespace OptionContext

variable {context : OptionContext} {options : BuildOptions}

def mergeAll (expanded : ToolOptions) (options : List KeyedOption) : ToolOptions :=
  options.foldl merge expanded

/-- The selected options that count, in the order in which they are merged. If there are gated options
but none of the wanted family, those of the tool's own `FAMILY` are taken in addition. -/
def contributing (context : OptionContext) (all : List KeyedOption) : List KeyedOption :=
  let selected := all.filter (context.selects ·.key)
  let first := selected.filter fun o => !context.gates o || context.wants o
  if all.any (fun o => context.gates o && context.wants o) || !all.any context.gates then first
  else first ++ selected.filter fun o => context.gates o && context.ofOwnFamily o

def contributions (context : OptionContext) (options : BuildOptions) : Checked (List KeyedOption) := do
  return context.contributing (← keyed (← context.dropShadowed options))

/-- The first pass is enough: no option is gated, or one of those that are is of the wanted family. -/
def Decided (context : OptionContext) (all : List KeyedOption) : Prop :=
  (∀ option ∈ all, ¬ context.gates option) ∨
    ∃ option ∈ all, context.gates option ∧ context.wants option

theorem gates_iff {option : KeyedOption} : context.gates option ↔
    option.family ≠ "" ∧ ∃ attributes, context.tools.get? option.key.command = some attributes := by
  rw [gates, Bool.and_eq_true, decide_eq_true_eq, and_comm, Table.contains, Option.isSome_iff_exists]

theorem wantedFamily_eq (context : OptionContext) (tool : String) :
    context.wantedFamily tool =
      ((["BUILDRULEFAMILY", "FAMILY"].map (context.toolAttribute tool)).find? (· ≠ "")).getD "" := by
  simp only [List.map_cons, List.map_nil, wantedFamily]
  by_cases rule : context.toolAttribute tool "BUILDRULEFAMILY" = ""
  · by_cases own : context.toolAttribute tool "FAMILY" = "" <;> simp [rule, own]
  · simp [rule]

/-- The first pass takes an option without a family, for a tool that is not defined, or of the first family
that its tool names. -/
theorem ungated_or_wanted_iff {option : KeyedOption} :
    (!context.gates option || context.wants option) = true ↔
      option.family = "" ∨ context.tools.get? option.key.command = none ∨
        (["BUILDRULEFAMILY", "FAMILY"].map (context.toolAttribute option.key.command)).find? (· ≠ "") =
          some option.family := by
  have undefined : (¬ ∃ attributes, context.tools.get? option.key.command = some attributes) ↔
      context.tools.get? option.key.command = none := by
    rw [← Option.isSome_iff_exists, Option.not_isSome_iff_eq_none]
  rw [Bool.or_eq_true, Bool.not_eq_true', ← Bool.not_eq_true, gates_iff, wants, decide_eq_true_eq,
    wantedFamily_eq, not_and_or, not_not, undefined, or_assoc]
  by_cases general : option.family = ""
  · exact iff_of_true (.inl general) (.inl general)
  · rw [or_iff_right general, or_iff_right general]
    refine or_congr_right ?_
    cases (["BUILDRULEFAMILY", "FAMILY"].map (context.toolAttribute option.key.command)).find? (· ≠ "") with
    | none => simp [general]
    | some family => simp [eq_comm]

theorem mergeAll_cons (expanded : ToolOptions) (option : KeyedOption) (others : List KeyedOption) :
    mergeAll expanded (option :: others) = mergeAll (merge expanded option) others := rfl

theorem mergeAll_append (expanded : ToolOptions) (options others : List KeyedOption) :
    mergeAll expanded (options ++ others) = mergeAll (mergeAll expanded options) others :=
  List.foldl_append

theorem foldl_takeWanted (state : Expansion) (all : List KeyedOption) :
    all.foldl context.takeWanted state =
      { merged := mergeAll state.merged
          (all.filter fun o => context.selects o.key && (!context.gates o || context.wants o))
        gated := state.gated || all.any context.gates
        matched := state.matched || all.any fun o => context.gates o && context.wants o } := by
  induction all generalizing state with
  | nil => simp [mergeAll]
  | cons option others ih =>
    rw [List.foldl_cons, ih, takeWanted]
    cases gated : context.gates option <;> cases wanted : context.wants option <;>
      cases selected : context.selects option.key <;>
      simp [mergeSelected, gated, wanted, selected, mergeAll_cons]

theorem foldl_takeOwn (expanded : ToolOptions) (all : List KeyedOption) :
    all.foldl context.takeOwn expanded =
      mergeAll expanded
        (all.filter fun o => context.selects o.key && (context.gates o && context.ofOwnFamily o)) := by
  induction all generalizing expanded with
  | nil => rfl
  | cons option others ih =>
    rw [List.foldl_cons, ih, takeOwn, List.filter_cons]
    cases counts : context.gates option && context.ofOwnFamily option <;>
      cases selected : context.selects option.key <;>
      simp [mergeSelected, selected, mergeAll_cons]

theorem filter_selected (counts : KeyedOption → Bool) (all : List KeyedOption) :
    (all.filter (context.selects ·.key)).filter counts =
      all.filter fun o => context.selects o.key && counts o := by
  simp only [List.filter_filter, Bool.and_comm]

theorem decided_iff {all : List KeyedOption} : context.Decided all ↔
    (all.any (fun o => context.gates o && context.wants o) || !all.any context.gates) = true := by
  simp [Decided, or_comm]

theorem contributing_of_decided {all : List KeyedOption} (decided : context.Decided all) :
    context.contributing all =
      all.filter fun o => context.selects o.key && (!context.gates o || context.wants o) := by
  rw [contributing, if_pos (decided_iff.1 decided), filter_selected]

theorem contributing_of_not_decided {all : List KeyedOption} (open' : ¬ context.Decided all) :
    context.contributing all =
      (all.filter fun o => context.selects o.key && !context.gates o) ++
        all.filter fun o => context.selects o.key && (context.gates o && context.ofOwnFamily o) := by
  -- The first pass then takes only what is not gated.
  have unwanted : ∀ option ∈ all, context.gates option → context.wants option = false := by
    intro option member gated
    by_contra wanted
    exact open' (.inr ⟨option, member, gated, by simpa using wanted⟩)
  rw [contributing, if_neg (mt decided_iff.2 open'), filter_selected, filter_selected]
  congr 1
  refine List.filter_congr fun option member => ?_
  cases gated : context.gates option with
  | false => simp
  | true => simp [unwanted option member gated]

/-- Where no gated option is for a tool with another family for its build rules, there is no second pass to
speak of. -/
theorem contributing_of_unruled {all : List KeyedOption}
    (unruled : ∀ option ∈ all, context.gates option →
      context.toolAttribute option.key.command "BUILDRULEFAMILY" = "") :
    context.contributing all =
      all.filter fun o => context.selects o.key && (!context.gates o || context.ofOwnFamily o) := by
  have same : ∀ option ∈ all, context.gates option → context.wants option = context.ofOwnFamily option := by
    intro option member gated
    rw [wants, ofOwnFamily, wantedFamily, unruled option member gated, if_pos rfl]
  have first : (all.filter fun o => context.selects o.key && (!context.gates o || context.wants o)) =
      all.filter fun o => context.selects o.key && (!context.gates o || context.ofOwnFamily o) := by
    refine List.filter_congr fun option member => ?_
    cases gated : context.gates option with
    | false => rfl
    | true => rw [same option member gated]
  by_cases decided : context.Decided all
  · rw [contributing_of_decided decided, first]
  · have none : (all.filter fun o =>
        context.selects o.key && (context.gates o && context.ofOwnFamily o)) = [] := by
      refine List.filter_eq_nil_iff.2 fun option member counts => decided (.inr ⟨option, member, ?_⟩)
      simp only [Bool.and_eq_true] at counts
      exact ⟨counts.2.1, (same option member counts.2.1).trans counts.2.2⟩
    rw [contributing, if_neg (mt decided_iff.2 decided), filter_selected, filter_selected, first, none,
      List.append_nil]

theorem mergePasses_eq (context : OptionContext) (all : List KeyedOption) :
    context.mergePasses all = mergeAll ∅ (context.contributing all) := by
  rw [mergePasses, contributing, foldl_takeWanted]
  simp only [Bool.false_or, filter_selected]
  split
  · rfl
  · rw [foldl_takeOwn, mergeAll_append]

theorem expand_eq (context : OptionContext) (options : BuildOptions) :
    context.expand options = do return mergeAll ∅ (← context.contributions options) := by
  simp only [expand, contributions, mergePasses_eq, bind_assoc, pure_bind]

theorem expand_eq_ok {context : OptionContext} {options : BuildOptions} {expanded : ToolOptions}
    (ok : context.expand options = .ok expanded) :
    ∃ contributing, context.contributions options = .ok contributing ∧
      expanded = mergeAll ∅ contributing := by
  rw [expand_eq] at ok
  obtain ⟨contributing, found, merged⟩ := Checked.bind_eq_ok.1 ok
  exact ⟨contributing, found, (Checked.pure_eq_ok.1 merged).symm⟩

section Slots

def mergeValue (attr : String) (old : Option String) (value : String) : String :=
  old.elim value fun before => if attr = "FLAGS" then before ++ " " ++ value else value

def slotValues (options : List KeyedOption) (tool attr : String) : List String :=
  (options.filter fun option => option.key.command = tool && option.key.attr = attr).map (·.value)

theorem value?_merge (expanded : ToolOptions) (option : KeyedOption) (tool attr : String) :
    (merge expanded option).value? tool attr =
      if option.key.command = tool ∧ option.key.attr = attr then
        some (mergeValue attr (expanded.value? tool attr) option.value)
      else expanded.value? tool attr := by
  unfold merge ToolOptions.value?
  rw [Table.get?_update]
  by_cases command : tool = option.key.command
  · subst command
    have old : ((expanded.get? option.key.command).getD ∅).get? attr =
        (expanded.get? option.key.command).bind (·.get? attr) := by
      cases expanded.get? option.key.command <;> rfl
    rw [if_pos rfl, Option.bind_some, Table.get?_update]
    by_cases same : attr = option.key.attr
    · subst same
      rw [if_pos rfl, if_pos ⟨rfl, rfl⟩, old]
      cases (expanded.get? option.key.command).bind (·.get? option.key.attr) <;> rfl
    · rw [if_neg same, if_neg fun both => same both.2.symm, old]
  · rw [if_neg command, if_neg fun both => command both.1.symm]

theorem value?_mergeAll (expanded : ToolOptions) (options : List KeyedOption) (tool attr : String) :
    (mergeAll expanded options).value? tool attr =
      (slotValues options tool attr).foldl (fun old value => some (mergeValue attr old value))
        (expanded.value? tool attr) := by
  induction options generalizing expanded with
  | nil => rfl
  | cons option others ih =>
    rw [mergeAll_cons, ih, value?_merge]
    by_cases slot : option.key.command = tool ∧ option.key.attr = attr <;> simp [slotValues, slot]

def slotText (attr : String) (values : List String) : Option String :=
  if attr = "FLAGS" ∧ values ≠ [] then some (Text.join " " values) else values.getLast?

theorem foldl_mergeValue_some (attr text : String) (values : List String) :
    values.foldl (fun old value => some (mergeValue attr old value)) (some text) =
      slotText attr (text :: values) := by
  induction values generalizing text with
  | nil => by_cases flags : attr = "FLAGS" <;> simp [slotText, flags, Text.join]
  | cons value others ih =>
    rw [List.foldl_cons, ih]
    by_cases flags : attr = "FLAGS"
    · simp [slotText, mergeValue, flags, Text.join_space_cons]
    · cases others <;> simp [slotText, mergeValue, flags]

theorem value?_mergeAll_empty (options : List KeyedOption) (tool attr : String) :
    (mergeAll ∅ options).value? tool attr = slotText attr (slotValues options tool attr) := by
  rw [value?_mergeAll, ToolOptions.value?_empty]
  cases slotValues options tool attr with
  | nil => simp [slotText]
  | cons value others => exact foldl_mergeValue_some attr value others

end Slots

end OptionContext

end UefiBuild
