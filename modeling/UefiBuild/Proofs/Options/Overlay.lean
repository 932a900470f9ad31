import UefiBuild.Proofs.Options.Layering
import UefiBuild.Proofs.Text.Words

namespace UefiBuild

def Text.spaced (texts : List String) : String := Text.join " " (texts.dropWhile (· = ""))

namespace ToolOptions

variable {layers : List ToolOptions} {tool attr : String}

def slot (layers : List ToolOptions) (tool attr : String) : List String :=
  layers.filterMap (·.value? tool attr)

theorem keys_addLayer (attributes layer : Table String String) :
    (addLayer attributes layer).keys = layer.keys.foldl addNew attributes.keys :=
  Table.keys_foldl_update attributes (fun value old => combine (old.getD "") value) layer.entries

theorem keys_foldl_addLayer (layers : List (Table String String)) (attributes : Table String String) :
    (layers.foldl addLayer attributes).keys =
      (layers.flatMap Table.keys).foldl addNew attributes.keys := by
  induction layers generalizing attributes with
  | nil => rfl
  | cons layer others ih =>
    rw [List.foldl_cons, ih, keys_addLayer, List.flatMap_cons, List.foldl_append]

theorem keys_layered (layers : List ToolOptions) :
    (layered layers).keys = distinct (layers.flatMap Table.keys) := by
  rw [layered, Table.keys_ofList, List.map_map]
  exact (congrArg distinct (List.map_id' _)).trans (distinct_of_nodup (nodup_distinct _))

theorem get?_layered (layers : List ToolOptions) (tool : String) :
    (layered layers).get? tool =
      if tool ∈ layers.flatMap Table.keys then
        some ((layers.filterMap (·.get? tool)).foldl addLayer ∅)
      else none := by
  rw [layered, Table.ofList, Table.get?_insertAll_map]
  simp only [mem_distinct]
  rfl

theorem foldl_combine_unmarked {values : List String}
    (unmarked : ∀ value ∈ values, Text.startsWith "=" value = false) (text : String) :
    values.foldl (fun old value => some (combine (old.getD "") value)) (some text) =
      some (Text.spaced (text :: values)) := by
  induction values generalizing text with
  | nil => by_cases empty : text = "" <;> simp [Text.spaced, empty, Text.join]
  | cons value others ih =>
    obtain ⟨first, later⟩ := List.forall_mem_cons.1 unmarked
    rw [List.foldl_cons, Option.getD_some, combine, Text.afterStart?_unmarked first, ih later]
    by_cases empty : text = ""
    · simp [Text.spaced, empty]
    · have joined : text ++ " " ++ value ≠ "" := by simp
      simp [Text.spaced, empty, joined, Text.join_space_cons]

theorem value?_layered_unmarked
    (unmarked : ∀ value ∈ slot layers tool attr, Text.startsWith "=" value = false) :
    (layered layers).value? tool attr =
      if slot layers tool attr = [] then none else some (Text.spaced (slot layers tool attr)) := by
  rw [value?_layered, ← slot]
  cases values : slot layers tool attr with
  | nil => rfl
  | cons value others =>
    obtain ⟨first, later⟩ := List.forall_mem_cons.1 (values ▸ unmarked)
    rw [List.foldl_cons, combine, Text.afterStart?_unmarked first]
    exact foldl_combine_unmarked later value

theorem value?_layered_replaced {before after : List ToolOptions} {layer : ToolOptions} {replacement : String}
    (replaces : layer.value? tool attr = some ("=" ++ replacement))
    (unmarked : ∀ value ∈ slot after tool attr, Text.startsWith "=" value = false) :
    (layered (before ++ layer :: after)).value? tool attr =
      some (Text.spaced (replacement :: slot after tool attr)) := by
  rw [value?_layered, List.filterMap_append, List.filterMap_cons, replaces, List.foldl_append,
    List.foldl_cons, combine, Text.afterStart?_append]
  exact foldl_combine_unmarked unmarked replacement

theorem keys_of_layered {attributes : Table String String}
    (found : (layered layers).get? tool = some attributes) :
    attributes.keys = distinct ((layers.filterMap (·.get? tool)).flatMap Table.keys) := by
  rw [get?_layered] at found
  split at found
  · obtain rfl := Option.some.inj found
    rw [keys_foldl_addLayer, ← foldl_addNew_nil]
    rfl
  · cases found

/-- The tools and their attributes stand in the order in which the layers first have them. A slot holds what
the last layer that replaces it gives, and after it what the layers above add; neither what is below nor
the other slots matter. -/
theorem layered_slots (layers : List ToolOptions) :
    (layered layers).keys = distinct (layers.flatMap Table.keys) ∧
      ∀ tool,
        (∀ attributes, (layered layers).get? tool = some attributes →
          attributes.keys = distinct ((layers.filterMap (·.get? tool)).flatMap Table.keys)) ∧
        ∀ attr,
          (∀ before layer after replacement, layers = before ++ layer :: after →
            layer.value? tool attr = some ("=" ++ replacement) →
            (∀ value ∈ slot after tool attr, Text.startsWith "=" value = false) →
            (layered layers).value? tool attr =
              some (Text.spaced (replacement :: slot after tool attr))) ∧
          ((∀ value ∈ slot layers tool attr, Text.startsWith "=" value = false) →
            (layered layers).value? tool attr =
              if slot layers tool attr = [] then none
              else some (Text.spaced (slot layers tool attr))) ∧
          ∀ others, slot others tool attr = slot layers tool attr →
            (layered others).value? tool attr = (layered layers).value? tool attr := by
  refine ⟨keys_layered layers, fun tool => ⟨fun _ => keys_of_layered, fun attr => ⟨?_, ?_, ?_⟩⟩⟩
  · rintro before layer after replacement rfl replaces unmarked
    exact value?_layered_replaced replaces unmarked
  · exact value?_layered_unmarked
  · intro others same
    rw [value?_layered, value?_layered, ← slot, same, slot]

def flagLayer (flags : String) : ToolOptions := .ofList [("CC", .ofList [("FLAGS", flags)])]

theorem layered_slots_cleared :
    let layers := [flagLayer "-O1", flagLayer "=-Os", flagLayer "=", flagLayer "-g", flagLayer "-m64"]
    (layered layers).keys = ["CC"] ∧ (layered layers).value? "CC" "FLAGS" = some "-g -m64" := by
  intro layers
  obtain ⟨tools, slots⟩ := layered_slots layers
  obtain ⟨replaced, -⟩ := (slots "CC").2 "FLAGS"
  have unmarked : ∀ value ∈ slot [flagLayer "-g", flagLayer "-m64"] "CC" "FLAGS",
      Text.startsWith "=" value = false := by decide +kernel
  exact ⟨tools.trans rfl,
    replaced [flagLayer "-O1", flagLayer "=-Os"] (flagLayer "=") _ "" rfl rfl unmarked⟩

end ToolOptions

end UefiBuild
