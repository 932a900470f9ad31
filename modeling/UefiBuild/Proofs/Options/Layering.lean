import UefiBuild.Proofs.Options.Passes

namespace UefiBuild

theorem Text.afterStart?_mark (text : String) :
    Text.afterStart? "=" text =
      match text.toList with
      | [] => none
      | c :: rest => if '=' = c then some (String.ofList rest) else none := by
  have mark : "=".toList = ['='] := rfl
  rw [Text.afterStart?, mark]
  cases text.toList with
  | nil => rfl
  | cons c rest =>
    simp only [Text.dropStart?]
    split <;> rfl

theorem Text.afterStart?_append_space (text value : String) :
    Text.afterStart? "=" (text ++ " " ++ value) =
      (Text.afterStart? "=" text).map (· ++ " " ++ value) := by
  have space : " ".toList = [' '] := rfl
  simp only [Text.afterStart?_mark, String.toList_append, space]
  cases text.toList with
  | nil => rfl
  | cons c rest =>
    simp only [List.cons_append]
    split
    · simp [String.append_assoc]
    · rfl

theorem Text.length_of_afterStart? {text rest : String}
    (marked : Text.afterStart? "=" text = some rest) : rest.length < text.length := by
  rw [Text.afterStart?_mark] at marked
  rw [← String.length_toList, ← String.length_toList]
  cases chars : text.toList with
  | nil => simp [chars] at marked
  | cons c others =>
    simp only [chars] at marked
    split at marked
    · cases marked
      simp
    · cases marked

theorem Text.startsWith_mark (text : String) :
    Text.startsWith "=" text = (Text.afterStart? "=" text).isSome := by
  simp [Text.startsWith, Text.afterStart?]

theorem Text.afterStart?_unmarked {text : String} (unmarked : Text.startsWith "=" text = false) :
    Text.afterStart? "=" text = none := by
  rwa [Text.startsWith_mark, Option.isSome_eq_false_iff, Option.isNone_iff_eq_none] at unmarked

namespace ToolOptions

theorem get?_addLayer (attributes layer : Table String String) (attr : String) :
    (addLayer attributes layer).get? attr =
      (layer.get? attr).elim (attributes.get? attr) fun value =>
        some (combine ((attributes.get? attr).getD "") value) :=
  Table.get?_foldl_update attributes (fun value old => combine (old.getD "") value) layer.entries
    layer.nodup_keys attr

theorem get?_foldl_addLayer (layers : List (Table String String)) (attributes : Table String String)
    (attr : String) :
    (layers.foldl addLayer attributes).get? attr =
      (layers.filterMap (·.get? attr)).foldl (fun old value => some (combine (old.getD "") value))
        (attributes.get? attr) := by
  induction layers generalizing attributes with
  | nil => rfl
  | cons layer others ih =>
    rw [List.foldl_cons, ih, get?_addLayer]
    cases found : layer.get? attr <;> simp [found]

theorem value?_layered (layers : List ToolOptions) (tool attr : String) :
    (layered layers).value? tool attr =
      (layers.filterMap (·.value? tool attr)).foldl
        (fun old value => some (combine (old.getD "") value)) none := by
  have slots : layers.filterMap (·.value? tool attr) =
      (layers.filterMap (·.get? tool)).filterMap (·.get? attr) := by
    rw [List.filterMap_filterMap]
    rfl
  rw [slots, value?, layered, Table.ofList, Table.get?_insertAll_map]
  split
  · exact get?_foldl_addLayer _ ∅ attr
  · rename_i absent
    have none : layers.filterMap (·.get? tool) = [] := by
      rw [List.filterMap_eq_nil_iff]
      intro layer member
      cases found : layer.get? tool with
      | none => rfl
      | some _ =>
        have key : tool ∈ layer.keys := Table.mem_keys.2 (by simp [found])
        exact absurd (mem_distinct.2 (List.mem_flatMap.2 ⟨layer, member, key⟩)) absent
    rw [none]
    rfl

end ToolOptions

namespace OptionContext

def flags (options : ToolOptions) (tool : String) : String := (options.value? tool "FLAGS").getD ""

def appendFlag (before value : String) : String := before ++ " " ++ value

def flagValues (options : List KeyedOption) (tool : String) : List String :=
  (options.filter fun option =>
    option.key.command = tool && option.key.attr = "FLAGS").map (·.value)

theorem value?_mergeAll_flags (expanded : ToolOptions) (options : List KeyedOption) (tool : String) :
    (mergeAll expanded options).value? tool "FLAGS" =
      (flagValues options tool).foldl (fun old value => some (old.elim value (appendFlag · value)))
        (expanded.value? tool "FLAGS") := value?_mergeAll expanded options tool "FLAGS"

/-- The rule for one option: if it starts with `=` it replaces the flags so far, otherwise it comes
after them and a space. -/
def arbitrate (before : Option String) (value : String) : String :=
  (Text.afterStart? "=" value).getD (before.elim value (appendFlag · value))

def arbitrated (start : Option String) (values : List String) : Option String :=
  values.foldl (fun before value => some (arbitrate before value)) start

def startingFlags (tools : ToolOptions) (tool : String) : Option String :=
  let text := ((tools.value? tool "FLAGS").map (arbitrate none)).getD ""
  if text = "" then none else some text

theorem combine_eq (before value : String) :
    ToolOptions.combine before value =
      arbitrate (if before = "" then none else some before) value := by
  unfold ToolOptions.combine arbitrate
  cases Text.afterStart? "=" value with
  | some replacement => rfl
  | none => by_cases empty : before = "" <;> simp [empty, appendFlag]

theorem arbitrate_appendFlag (start : Option String) (text value : String) :
    arbitrate start (appendFlag text value) = appendFlag (arbitrate start text) value := by
  unfold arbitrate appendFlag
  rw [Text.afterStart?_append_space]
  cases Text.afterStart? "=" text with
  | some replacement => rfl
  | none => cases start <;> simp [String.append_assoc]

theorem arbitrate_foldl (start : Option String) (text : String) (values : List String) :
    arbitrate start (values.foldl appendFlag text) =
      values.foldl appendFlag (arbitrate start text) := by
  induction values generalizing text with
  | nil => rfl
  | cons value others ih => rw [List.foldl_cons, ih, arbitrate_appendFlag, List.foldl_cons]

theorem arbitrated_some (text : String) (values : List String) :
    arbitrated (some text) values =
      some (values.foldl (fun text => arbitrate (some text)) text) := by
  unfold arbitrated
  induction values generalizing text with
  | nil => rfl
  | cons value others ih => exact ih (arbitrate (some text) value)

theorem length_appendFlag (text value : String) :
    (appendFlag text value).length = text.length + 1 + value.length := by
  have space : " ".length = 1 := rfl
  simp [appendFlag, space]

theorem arbitrate_unmarked {value : String} (unmarked : Text.startsWith "=" value = false)
    (text : String) : arbitrate (some text) value = appendFlag text value := by
  simp [arbitrate, Text.afterStart?_unmarked unmarked]

theorem length_arbitrate_marked {value : String} (marked : Text.startsWith "=" value = true)
    (text : String) : (arbitrate (some text) value).length < value.length := by
  rw [Text.startsWith_mark] at marked
  obtain ⟨rest, found⟩ := Option.isSome_iff_exists.1 marked
  simpa [arbitrate, found] using Text.length_of_afterStart? found

theorem length_arbitrate_le (text value : String) :
    (arbitrate (some text) value).length ≤ text.length + 1 + value.length := by
  cases mark : Text.startsWith "=" value with
  | false => exact Nat.le_of_eq (by rw [arbitrate_unmarked mark, length_appendFlag])
  | true =>
    have shorter := length_arbitrate_marked mark text
    omega

theorem length_foldl_arbitrate_lt (values : List String) {short long : String}
    (shorter : short.length < long.length) :
    (values.foldl (fun text => arbitrate (some text)) short).length <
      (values.foldl appendFlag long).length := by
  induction values generalizing short long with
  | nil => exact shorter
  | cons value others ih =>
    have bound := length_arbitrate_le short value
    have next : (arbitrate (some short) value).length < (appendFlag long value).length := by
      rw [length_appendFlag]
      omega
    exact ih next

/-- A replacement among the values makes the flags shorter than all values together. -/
theorem foldl_appendFlag_eq_iff (values : List String) (text : String) :
    values.foldl appendFlag text = values.foldl (fun text => arbitrate (some text)) text ↔
      ∀ value ∈ values, Text.startsWith "=" value = false := by
  induction values generalizing text with
  | nil => simp
  | cons value others ih =>
    rw [List.foldl_cons, List.foldl_cons, List.forall_mem_cons]
    cases mark : Text.startsWith "=" value with
    | false => rw [arbitrate_unmarked mark, ih, and_iff_right rfl]
    | true =>
      have shorter : (arbitrate (some text) value).length < (appendFlag text value).length := by
        have bound := length_arbitrate_marked mark text
        rw [length_appendFlag]
        omega
      have differ := length_foldl_arbitrate_lt others shorter
      constructor
      · intro same
        rw [same] at differ
        exact absurd differ (Nat.lt_irrefl _)
      · rintro ⟨impossible, _⟩
        cases impossible

theorem flags_layered (tools merged : ToolOptions) (tool : String) :
    flags (.layered [tools, merged]) tool =
      ((merged.value? tool "FLAGS").elim (startingFlags tools tool) fun text =>
        some (arbitrate (startingFlags tools tool) text)).getD "" := by
  have own : ∀ text, ToolOptions.combine "" text = arbitrate none text := combine_eq ""
  rw [flags, ToolOptions.value?_layered, startingFlags]
  cases defined : tools.value? tool "FLAGS" with
  | none => cases found : merged.value? tool "FLAGS" <;> simp [defined, found, own]
  | some text =>
    cases found : merged.value? tool "FLAGS" with
    | none => by_cases empty : arbitrate none text = "" <;> simp [defined, found, own, empty]
    | some value => simp [defined, found, own, combine_eq (arbitrate none text)]

theorem foldl_elim_appendFlag (values : List String) (text : String) :
    values.foldl (fun old value => some (old.elim value (appendFlag · value))) (some text) =
      some (values.foldl appendFlag text) := by
  induction values generalizing text with
  | nil => rfl
  | cons value others ih => exact ih (appendFlag text value)

/-- The rule counts for the first value only, and the others are added as they are. -/
def appended (start : Option String) : List String → Option String
  | [] => start
  | value :: others => some (others.foldl appendFlag (arbitrate start value))

theorem layered_mergeAll (tools : ToolOptions) (contributing : List KeyedOption) (tool : String) :
    flags (.layered [tools, mergeAll ∅ contributing]) tool =
      (appended (startingFlags tools tool) (flagValues contributing tool)).getD "" := by
  rw [flags_layered, value?_mergeAll_flags, ToolOptions.value?_empty]
  cases flagValues contributing tool with
  | nil => rfl
  | cons value others =>
    have merged : (value :: others).foldl
        (fun old value => some (old.elim value (appendFlag · value))) none =
          some (others.foldl appendFlag value) := foldl_elim_appendFlag others value
    rw [merged, Option.elim_some, arbitrate_foldl, appended]

theorem appended_eq_arbitrated_iff (start : Option String) (values : List String) :
    (appended start values).getD "" = (arbitrated start values).getD "" ↔
      ∀ value ∈ values.tail, Text.startsWith "=" value = false := by
  cases values with
  | nil => simp [appended, arbitrated]
  | cons value others =>
    have ruled : arbitrated start (value :: others) =
        some (others.foldl (fun text => arbitrate (some text)) (arbitrate start value)) :=
      arbitrated_some _ others
    rw [ruled, appended, Option.getD_some, Option.getD_some, List.tail_cons]
    exact foldl_appendFlag_eq_iff others _

/-- The flags are those that the rule gives for one option after the other exactly if no option but
the first replaces anything. -/
theorem layered_flags_eq_iff {context : OptionContext} {options : BuildOptions}
    {expanded : ToolOptions} (ok : context.expand options = .ok expanded) :
    ∃ contributing, context.contributions options = .ok contributing ∧
      ∀ (definition : ToolOptions) (tool : String),
        let start := startingFlags definition tool
        let values := flagValues contributing tool
        flags (.layered [definition, expanded]) tool = (appended start values).getD "" ∧
          (flags (.layered [definition, expanded]) tool = (arbitrated start values).getD "" ↔
            ∀ value ∈ values.tail, Text.startsWith "=" value = false) := by
  obtain ⟨contributing, found, rfl⟩ := expand_eq_ok ok
  refine ⟨contributing, found, fun definition tool => ?_⟩
  rw [layered_mergeAll]
  exact ⟨rfl, appended_eq_arbitrated_iff _ _⟩

def compilerTools : ToolOptions := .ofList [("CC", .ofList [("FAMILY", "GCC"), ("FLAGS", "-Os")])]

def compilerContext : OptionContext where
  target := "DEBUG"
  toolchain := "GCC5"
  arch := "X64"
  buildRuleFamily := "GCC"
  tools := compilerTools

def compilerOptions (general debug : String) : BuildOptions :=
  .ofList [(⟨"GCC", "*_*_*_CC_FLAGS"⟩, general), (⟨"GCC", "DEBUG_*_*_CC_FLAGS"⟩, debug)]

theorem layered_flags_of_first_replacement :
    compilerContext.expand (compilerOptions "=-O0" "-Wall") =
        .ok (.ofList [("CC", .ofList [("FLAGS", "=-O0 -Wall")])]) ∧
      ∃ contributing,
        compilerContext.contributions (compilerOptions "=-O0" "-Wall") = .ok contributing ∧
        ∀ (definition : ToolOptions) (tool : String),
          let layers := [definition, .ofList [("CC", .ofList [("FLAGS", "=-O0 -Wall")])]]
          let start := startingFlags definition tool
          let values := flagValues contributing tool
          flags (.layered layers) tool = (appended start values).getD "" ∧
            (flags (.layered layers) tool = (arbitrated start values).getD "" ↔
              ∀ value ∈ values.tail, Text.startsWith "=" value = false) :=
  ⟨rfl, layered_flags_eq_iff rfl⟩

/-- An option that comes second and starts with `=` does not replace what the first one gave, and keeps its
mark. -/
theorem layered_flags_of_second_replacement :
    ∃ contributing expanded,
      compilerContext.contributions (compilerOptions "-Wall" "=-O0") = .ok contributing ∧
      compilerContext.expand (compilerOptions "-Wall" "=-O0") = .ok expanded ∧
      flags (.layered [compilerTools, expanded]) "CC" = "-Os -Wall =-O0" ∧
      arbitrated (startingFlags compilerTools "CC") (flagValues contributing "CC") = some "-O0" :=
  ⟨_, _, rfl, rfl, rfl, rfl⟩

end OptionContext

end UefiBuild
