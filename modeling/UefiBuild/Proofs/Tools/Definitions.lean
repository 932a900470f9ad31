import UefiBuild.Proofs.Checked
import UefiBuild.Proofs.Text.Fields
import UefiBuild.Proofs.Text.Lines
import UefiBuild.Tools.Table

namespace UefiBuild

structure ToolLine where
  defines? : Option (String × String) := none
  blanks : String := ""
  note? : Option String := none

namespace ToolLine

def body (line : ToolLine) : String :=
  line.defines?.elim "" (fun (key, value) => key ++ " = " ++ value) ++ line.blanks

def text (line : ToolLine) : String := line.body ++ line.note?.elim "" ("#" ++ ·)

structure IsEntry (key value : String) : Prop where
  fields : (Text.split '_' key).length = 5
  keyTrimmed : Text.trim key = key
  valueTrimmed : Text.trim value = value
  uncut : '=' ∉ key.toList
  uncommented : '#' ∉ key.toList ∧ '#' ∉ value.toList
  unbroken : '\n' ∉ key.toList ∧ '\n' ∉ value.toList

instance (key value : String) : Decidable (IsEntry key value) :=
  decidable_of_iff ((Text.split '_' key).length = 5 ∧ Text.trim key = key ∧ Text.trim value = value ∧
      '=' ∉ key.toList ∧ ('#' ∉ key.toList ∧ '#' ∉ value.toList) ∧ '\n' ∉ key.toList ∧ '\n' ∉ value.toList)
    ⟨fun ⟨fields, keyTrimmed, valueTrimmed, uncut, uncommented, unbroken⟩ =>
        ⟨fields, keyTrimmed, valueTrimmed, uncut, uncommented, unbroken⟩,
      fun entry => ⟨entry.fields, entry.keyTrimmed, entry.valueTrimmed, entry.uncut, entry.uncommented, entry.unbroken⟩⟩

structure IsWritable (line : ToolLine) : Prop where
  entry : ∀ entry ∈ line.defines?, IsEntry entry.1 entry.2
  blank : Text.isBlankText line.blanks
  unbroken : '\n' ∉ line.blanks.toList
  note : ∀ note ∈ line.note?, '\n' ∉ note.toList

instance (line : ToolLine) : Decidable line.IsWritable :=
  decidable_of_iff ((∀ entry ∈ line.defines?, IsEntry entry.1 entry.2) ∧ Text.isBlankText line.blanks ∧
      '\n' ∉ line.blanks.toList ∧ ∀ note ∈ line.note?, '\n' ∉ note.toList)
    ⟨fun ⟨entry, blank, unbroken, note⟩ => ⟨entry, blank, unbroken, note⟩,
      fun line => ⟨line.entry, line.blank, line.unbroken, line.note⟩⟩

variable {line : ToolLine} {key value : String} {c : Char}

theorem toList_body (line : ToolLine) : line.body.toList =
    line.defines?.elim [] (fun (key, value) => key.toList ++ ' ' :: '=' :: ' ' :: value.toList) ++
      line.blanks.toList := by
  have mark : " = ".toList = [' ', '=', ' '] := rfl
  cases entry : line.defines? <;> simp [body, entry, mark]

theorem IsWritable.isBlank (writable : line.IsWritable) : ∀ c ∈ line.blanks.toList, Text.isBlank c = true :=
  List.all_eq_true.1 writable.blank

theorem not_mem_body (written : ∀ entry ∈ line.defines?, c ∉ entry.1.toList ∧ c ∉ entry.2.toList)
    (unmarked : c ∉ " = ".toList) (behind : c ∉ line.blanks.toList) : c ∉ line.body.toList := by
  rw [body, String.toList_append, List.mem_append, not_or]
  refine ⟨?_, behind⟩
  cases entry : line.defines? with
  | none => exact List.not_mem_nil
  | some pair =>
    obtain ⟨inKey, inValue⟩ := written pair entry
    simp only [Option.elim_some, String.toList_append, List.mem_append, not_or]
    exact ⟨⟨inKey, unmarked⟩, inValue⟩

theorem IsWritable.body_uncommented (writable : line.IsWritable) : '#' ∉ line.body.toList :=
  not_mem_body (fun entry here => (writable.entry entry here).uncommented) (by decide) fun member =>
    absurd (writable.isBlank _ member) (by decide)

theorem IsWritable.body_unbroken (writable : line.IsWritable) : '\n' ∉ line.body.toList :=
  not_mem_body (fun entry here => (writable.entry entry here).unbroken) (by decide) writable.unbroken

theorem IsWritable.text_unbroken (writable : line.IsWritable) : '\n' ∉ line.text.toList := by
  rw [text, String.toList_append, List.mem_append, not_or]
  refine ⟨writable.body_unbroken, ?_⟩
  cases note : line.note? with
  | none => simp
  | some words => simpa using writable.note words note

theorem IsWritable.uncommented_text (writable : line.IsWritable) :
    ToolTable.uncommented line.text = Text.trim line.body := by
  have absent := writable.body_uncommented
  have mark : "#".toList = ['#'] := rfl
  rw [ToolTable.uncommented, Text.cutAtFirst?, text]
  cases line.note? with
  | none => simp [Text.cutFirst?_of_absent absent]
  | some words => simp [mark, Text.cutFirst?_append absent]

end ToolLine

namespace ToolTable

variable {tools last : ToolTable} {line : ToolLine}

theorem readLine_of_cut {line : String} {a b : List Char} (shown : uncommented line = Text.trim (.ofList (a ++ '=' :: b)))
    (absent : '=' ∉ a) (fields : (Text.split '_' (.ofList (Text.trimBoth a))).length = 5) (number : Nat) :
    tools.readLine number line =
      .ok (tools.insert (.ofList (Text.trimBoth a)) (.ofList (Text.trimBoth b))) := by
  have letters : uncommented line = .ofList (Text.trimStart a ++ '=' :: Text.trimEnd b) := by
    rw [shown, Text.trim, String.toList_ofList, Text.trimBoth_append_cons rfl]
  have kept : '=' ∉ Text.trimStart a := fun member => absent ((List.dropWhile_sublist _).subset member)
  have cut : Text.cutAtFirst? '=' (uncommented line) =
      some (.ofList (Text.trimStart a), .ofList (Text.trimEnd b)) := by
    rw [letters, Text.cutAtFirst?, String.toList_ofList, Text.cutFirst?_append kept]
    rfl
  have filled : uncommented line ≠ "" := by simp [letters]
  have key : Text.trim (.ofList (Text.trimStart a)) = .ofList (Text.trimBoth a) := by
    rw [Text.trim, String.toList_ofList, Text.trimBoth_trimStart]
  have value : Text.trim (.ofList (Text.trimEnd b)) = .ofList (Text.trimBoth b) := by
    rw [Text.trim, String.toList_ofList, Text.trimBoth_trimEnd]
  simp only [readLine, filled, if_false, cut, key, value, fields, if_true]

theorem readLine_text (writable : line.IsWritable) (number : Nat) :
    tools.readLine number line.text =
      .ok (line.defines?.elim tools fun (key, value) => tools.insert key value) := by
  have shown := writable.uncommented_text
  have letters := line.toList_body
  cases entry : line.defines? with
  | none =>
    rw [entry, Option.elim_none, List.nil_append] at letters
    have empty : uncommented line.text = "" := by
      rw [shown, Text.trim, letters, Text.trimBoth_eq_nil writable.isBlank]
    rw [readLine, empty]
    rfl
  | some pair =>
    obtain ⟨key, value⟩ := pair
    have isEntry := writable.entry _ entry
    have space : ∀ c ∈ [' '], Text.isBlank c = true := List.forall_mem_singleton.2 rfl
    have written : line.body.toList =
        (key.toList ++ [' ']) ++ '=' :: ([' '] ++ value.toList ++ line.blanks.toList) := by
      simp [letters, entry]
    have absent : '=' ∉ key.toList ++ [' '] := by
      simpa using isEntry.uncut
    have keyBack : String.ofList (Text.trimBoth (key.toList ++ [' '])) = key := by
      rw [Text.trimBoth_append_blanks _ space]
      exact isEntry.keyTrimmed
    have valueBack :
        String.ofList (Text.trimBoth ([' '] ++ value.toList ++ line.blanks.toList)) = value := by
      rw [Text.trimBoth_append_blanks _ writable.isBlank, Text.trimBoth_blanks_append space]
      exact isEntry.valueTrimmed
    have fields := isEntry.fields
    rw [← keyBack] at fields
    rw [readLine_of_cut (by rw [shown, ← written, String.ofList_toList]) absent fields, keyBack, valueBack]
    rfl

theorem readLines_texts {lines : List ToolLine} (writable : ∀ line ∈ lines, line.IsWritable) (number : Nat) :
    tools.readLines number (lines.map ToolLine.text) =
      .ok ((lines.filterMap (·.defines?)).foldl (fun tools (key, value) => tools.insert key value) tools) := by
  induction lines generalizing tools number with
  | nil => rfl
  | cons line rest ih =>
    rw [List.map_cons, readLines, readLine_text (writable line (by simp))]
    have later (next : ToolTable) : next.readLines (number + 1) (rest.map ToolLine.text) =
        .ok ((rest.filterMap (·.defines?)).foldl (fun tools (key, value) => tools.insert key value) next) :=
      ih (fun line member => writable line (List.mem_cons_of_mem _ member)) (number + 1)
    cases entry : line.defines? with
    | none =>
      rw [List.filterMap_cons_none entry]
      exact later tools
    | some pair =>
      rw [List.filterMap_cons_some entry, List.foldl_cons]
      exact later _

theorem read_texts {lines : List ToolLine} (writable : ∀ line ∈ lines, line.IsWritable) :
    read (Text.join "\n" (lines.map ToolLine.text)) =
      .ok ((lines.filterMap (·.defines?)).foldl (fun tools (key, value) => tools.insert key value) {}) := by
  cases filled : lines with
  | nil => rfl
  | cons first rest =>
    have unbroken : ∀ text ∈ lines.map ToolLine.text, ∀ c ∈ text.toList, (c == '\n') = false :=
      List.forall_mem_map.2 fun line member c within => by
        simpa using ne_of_mem_of_not_mem within (writable line member).text_unbroken
    have some' : lines.map ToolLine.text ≠ [] := by simp [filled]
    have lines_eq : Text.lines (Text.join "\n" (lines.map ToolLine.text)) = lines.map ToolLine.text :=
      Text.splitAt_join '\n' rfl some' unbroken
    rw [← filled, read, lines_eq]
    exact readLines_texts writable 1

def IsKeyed (tools : ToolTable) : Prop := ∀ key ∈ tools.entries.keys, (Text.split '_' key).length = 5

theorem isKeyed_empty : ({} : ToolTable).IsKeyed := fun _ listed => absurd listed List.not_mem_nil

theorem IsKeyed.insert (keyed : tools.IsKeyed) {key : String} (fields : (Text.split '_' key).length = 5)
    (value : String) : (tools.insert key value).IsKeyed := by
  intro other listed
  rw [ToolTable.insert, Table.keys_insert, addNew] at listed
  split at listed
  · exact keyed other listed
  · rcases List.mem_append.1 listed with old | new
    · exact keyed other old
    · rwa [List.mem_singleton.1 new]

theorem IsKeyed.readLine (keyed : tools.IsKeyed) {number : Nat} {line : String}
    (ok : tools.readLine number line = .ok last) : last.IsKeyed := by
  unfold ToolTable.readLine at ok
  dsimp only at ok
  split at ok
  · obtain rfl := Except.ok.inj ok
    exact keyed
  · split at ok
    · cases ok
    · split at ok
      · rename_i fields
        obtain rfl := Except.ok.inj ok
        exact keyed.insert fields _
      · cases ok

theorem IsKeyed.readLines {lines : List String} (keyed : tools.IsKeyed) {number : Nat}
    (ok : tools.readLines number lines = .ok last) : last.IsKeyed := by
  induction lines generalizing tools number with
  | nil =>
    obtain rfl := Except.ok.inj ok
    exact keyed
  | cons line rest ih =>
    obtain ⟨next, here, there⟩ := Checked.bind_eq_ok.1 ok
    exact ih (keyed.readLine here) there

/-- Entries that are written line by line, with comments and blank lines anywhere, are read back in order,
and no text is accepted that gives a key of other than five fields. -/
theorem read_written :
    (∀ lines : List ToolLine, (∀ line ∈ lines, line.IsWritable) →
      read (Text.join "\n" (lines.map ToolLine.text)) =
        .ok ((lines.filterMap (·.defines?)).foldl (fun tools (key, value) => tools.insert key value) {})) ∧
    ∀ text tools, read text = .ok tools → ∀ key ∈ tools.entries.keys, (Text.split '_' key).length = 5 :=
  ⟨fun _ => read_texts, fun _ _ ok => isKeyed_empty.readLines ok⟩

theorem read_written_repeatedKey :
    let lines : List ToolLine :=
      [{ note? := some " tools = # all\r" }, { defines? := some ("*_GCC5_*_CC_FLAGS", "-DA=1"), blanks := "\r" },
        {}, { defines? := some ("*_GCC5_*_CC_PATH", "gcc") },
        { defines? := some ("*_GCC5_*_CC_FLAGS", "==-Os"), blanks := " ", note? := some "-Os" },
        { defines? := some ("____", "") }, { blanks := " \t", note? := some "" }]
    let tools : ToolTable :=
      ⟨.ofList [("*_GCC5_*_CC_FLAGS", "==-Os"), ("*_GCC5_*_CC_PATH", "gcc"), ("____", "")]⟩
    (∀ line ∈ lines, line.IsWritable) ∧
      Text.join "\n" (lines.map ToolLine.text) = "# tools = # all\r\n*_GCC5_*_CC_FLAGS = -DA=1\r\n\n" ++
        "*_GCC5_*_CC_PATH = gcc\n*_GCC5_*_CC_FLAGS = ==-Os #-Os\n____ = \n \t#" ∧
      read (Text.join "\n" (lines.map ToolLine.text)) = .ok tools ∧
      ∀ key ∈ tools.entries.keys, (Text.split '_' key).length = 5 := by
  intro lines tools
  have writable : ∀ line ∈ lines, line.IsWritable := by decide +kernel
  have done := read_written.1 lines writable
  exact ⟨writable, by decide +kernel, done, read_written.2 _ _ done⟩

end ToolTable

end UefiBuild
