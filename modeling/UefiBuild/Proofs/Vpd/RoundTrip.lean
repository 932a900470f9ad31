import Mathlib.Data.List.Induction
import UefiBuild.Proofs.Text.Digits
import UefiBuild.Proofs.Text.Lines
import UefiBuild.Proofs.Text.Quoting
import UefiBuild.Vpd.OffsetFile

namespace UefiBuild

namespace Text

def isIdentifier (s : String) : Bool :=
  match s.toList with
  | [] => false
  | first :: rest => (first.isAlpha || first = '_') && rest.all fun c => c.isAlphanum || c = '_'

theorem isAlphanum_of_isIdentifier {s : String} (identifier : isIdentifier s) :
    ∀ c ∈ s.toList, c.isAlphanum ∨ c = '_' := by
  unfold isIdentifier at identifier
  intro c member
  cases letters : s.toList with
  | nil => simp [letters] at identifier
  | cons first rest =>
    simp only [letters, Bool.and_eq_true, Bool.or_eq_true, decide_eq_true_eq, List.all_eq_true] at identifier
    obtain ⟨start, others⟩ := identifier
    rcases List.mem_cons.1 (letters ▸ member) with rfl | later
    · exact start.imp_left fun letter => Bool.or_eq_true_iff.2 (.inl letter)
    · exact others c later

theorem toNat_of_isAlphanum {c : Char} (letter : c.isAlphanum) : 48 ≤ c.toNat ∧ c.toNat ≤ 122 := by
  rcases Bool.or_eq_true_iff.1 letter with alpha | digit
  · rcases Bool.or_eq_true_iff.1 alpha with upper | lower
    · have bounds : 65 ≤ c.toNat ∧ c.toNat ≤ 90 := of_decide_eq_true upper
      omega
    · have bounds : 97 ≤ c.toNat ∧ c.toNat ≤ 122 :=
        (Bool.and_eq_true_iff.1 lower).imp of_decide_eq_true of_decide_eq_true
      omega
  · have bounds : 48 ≤ c.toNat ∧ c.toNat ≤ 57 := toNat_of_isDigit digit
    omega

theorem isBlank_of_isAlphanum {c : Char} (letter : c.isAlphanum ∨ c = '_') : isBlank c = false := by
  rcases letter with letter | rfl
  · have bounds := toNat_of_isAlphanum letter
    simp only [isBlank, Bool.or_eq_false_iff, Bool.and_eq_false_iff, decide_eq_false_iff_not,
      beq_eq_false_iff_ne, ne_eq]
    omega
  · rfl

theorem ne_of_isAlphanum {c mark : Char} (letter : c.isAlphanum ∨ c = '_')
    (other : mark.isAlphanum = false) (underscore : mark ≠ '_') : c ≠ mark := by
  rintro rfl
  rcases letter with letter | same
  · rw [other] at letter
    cases letter
  · exact underscore same

end Text

theorem map_snd_filter_flatMap_entries {κ α β : Type} [DecidableEq κ] {entries : List (κ × α)}
    (distinctKeys : (entries.map Prod.fst).Nodup) (values : α → List β) (key : κ) :
    ((entries.flatMap fun entry => (values entry.2).map (entry.1, ·)).filter (·.1 = key)).map Prod.snd =
      (entries.lookup key).elim [] values := by
  induction entries with
  | nil => rfl
  | cons entry rest ih =>
    obtain ⟨first, a⟩ := entry
    obtain ⟨absent, others⟩ := List.nodup_cons.1 distinctKeys
    rw [List.flatMap_cons, List.filter_append, List.map_append, ih others, lookup_entry]
    by_cases same : key = first
    · subst same
      rw [lookup_eq_none absent]
      simp [List.filter_map, Function.comp_def]
    · have other : ¬ first = key := fun h => same h.symm
      simp [List.filter_map, Function.comp_def, same, other]

namespace OffsetFile

def offsetsOf (file : OffsetFile) (id : PcdId) : List String := (file.assigned.get? id).getD []

theorem offset?_eq (file : OffsetFile) (id : PcdId) (index : Nat) :
    file.offset? id index = (file.offsetsOf id)[index]? := by
  unfold offset? offsetsOf
  cases file.assigned.get? id <;> rfl

theorem offsetsOf_assign (file : OffsetFile) (id : PcdId) (offset : String) (other : PcdId) :
    (file.assign id offset).offsetsOf other =
      if other = id then file.offsetsOf id ++ [offset] else file.offsetsOf other := by
  rw [offsetsOf, assign, Table.get?_update]
  split <;> rfl

theorem offsetsOf_foldl_assign (file : OffsetFile) (rows : List (PcdId × String)) (id : PcdId) :
    (rows.foldl (fun file row => file.assign row.1 row.2) file).offsetsOf id =
      file.offsetsOf id ++ (rows.filter (·.1 = id)).map Prod.snd := by
  induction rows generalizing file with
  | nil => simp
  | cons row rest ih =>
    rw [List.foldl_cons, ih, offsetsOf_assign]
    by_cases same : id = row.1
    · simp [← same]
    · have other : ¬ row.1 = id := fun h => same h.symm
      simp [same, other]

def row? (line : String) : Option (PcdId × String) := (readRow line).toOption.join

theorem row?_of_readRow {line : String} {row : Option (PcdId × String)} (read : readRow line = .ok row) :
    row? line = row := by
  rw [row?, read]
  rfl

theorem readRows_of_readable (source : SourcePath) (file : OffsetFile) (number : Nat) {lines : List String}
    (readable : ∀ line ∈ lines, readRow line = .ok (row? line)) :
    readRows source file number lines =
      ((lines.filterMap row?).foldl (fun file row => file.assign row.1 row.2) file, .ok ()) := by
  induction lines generalizing file number with
  | nil => rfl
  | cons line rest ih =>
    have later := fun file number =>
      ih file number fun other member => readable other (List.mem_cons_of_mem line member)
    rw [readRows, readable line (by simp)]
    cases found : row? line with
    | none => rw [List.filterMap_cons_none found]; exact later file (number + 1)
    | some row => rw [List.filterMap_cons_some found]; exact later _ (number + 1)

section Rows

structure IsPlain (s : String) : Prop where
  trimmed : Text.trim s = s
  plain : ∀ c ∈ s.toList, c ≠ '|' ∧ c ≠ '"' ∧ c ≠ '\n'

/-- One line, with quotes around each bar. -/
structure IsLine (s : String) : Prop where
  unbroken : '\n' ∉ s.toList
  shielded : Text.isShielded '|' .outside s.toList

structure Writable (pcd : Pcd) (offset : String) : Prop where
  name : Text.isIdentifier pcd.id.name
  space : Text.isIdentifier pcd.id.space
  offset : IsPlain offset
  size : ∀ size ∈ pcd.maxSize?, IsPlain size
  value : IsLine pcd.value
  skuValue : IsLine pcd.firstSkuValue

instance (s : String) : Decidable (IsPlain s) :=
  decidable_of_iff (Text.trim s = s ∧ s.toList.all fun c => c ≠ '|' ∧ c ≠ '"' ∧ c ≠ '\n')
    ⟨fun h => ⟨h.1, by simpa using h.2⟩, fun h => ⟨h.1, by simpa using h.2⟩⟩

instance (s : String) : Decidable (IsLine s) :=
  decidable_of_iff ('\n' ∉ s.toList ∧ Text.isShielded '|' .outside s.toList)
    ⟨fun h => ⟨h.1, h.2⟩, fun h => ⟨h.1, h.2⟩⟩

instance (pcd : Pcd) (offset : String) : Decidable (Writable pcd offset) :=
  decidable_of_iff (Text.isIdentifier pcd.id.name ∧ Text.isIdentifier pcd.id.space ∧ IsPlain offset ∧
      (∀ size ∈ pcd.maxSize?, IsPlain size) ∧ IsLine pcd.value ∧ IsLine pcd.firstSkuValue)
    ⟨fun ⟨name, space, offset, size, value, skuValue⟩ => ⟨name, space, offset, size, value, skuValue⟩,
      fun ⟨name, space, offset, size, value, skuValue⟩ => ⟨name, space, offset, size, value, skuValue⟩⟩

variable {pcd : Pcd} {offset : String}

def rowText (pcd : Pcd) (offset : String) : String :=
  Text.join "|" [pcd.fullName, Text.trim offset, shownSize pcd, shownValue pcd]

theorem IsLine.trim {s : String} (line : IsLine s) : IsLine (Text.trim s) where
  unbroken member := line.unbroken ((Text.trimBoth_sublist _).subset (Text.toList_trim s ▸ member))
  shielded := by
    rw [Text.toList_trim]
    exact Text.isShielded_trimBoth line.shielded

theorem Writable.isLine_shownValue (writable : Writable pcd offset) : IsLine (shownValue pcd) := by
  unfold shownValue
  dsimp only
  split
  · exact writable.value
  · exact writable.skuValue.trim

theorem plain_toString (n : Nat) : ∀ c ∈ (toString n).toList, c ≠ '|' ∧ c ≠ '"' ∧ c ≠ '\n' := by
  intro c member
  rw [Nat.toString_eq_ofList_toDigits, String.toList_ofList] at member
  have digit : c.isDigit := Nat.isDigit_of_mem_toDigits (by decide) (by decide) member
  have letter : c.isAlphanum ∨ c = '_' := .inl (Bool.or_eq_true_iff.2 (.inr digit))
  exact ⟨Text.ne_of_isAlphanum letter rfl (by decide), Text.ne_of_isAlphanum letter rfl (by decide),
    Text.ne_of_isAlphanum letter rfl (by decide)⟩

theorem Writable.plain_shownSize (writable : Writable pcd offset) :
    ∀ c ∈ (shownSize pcd).toList, c ≠ '|' ∧ c ≠ '"' ∧ c ≠ '\n' := by
  unfold shownSize
  dsimp only
  split
  · cases pcd.datumType?.bind DatumType.width? with
    | none => exact nofun
    | some width => exact plain_toString width
  · rename_i given
    cases size : pcd.maxSize? with
    | none => simp [size] at given
    | some size' =>
      have plain := writable.size size' (by simp [size])
      rw [Option.elim_some, plain.trimmed]
      exact plain.plain

theorem toList_fullName (id : PcdId) : id.fullName.toList = id.space.toList ++ '.' :: id.name.toList := by
  change (id.space ++ "." ++ id.name).toList = _
  simp

theorem toList_rowText (pcd : Pcd) (offset : String) :
    (rowText pcd offset).toList = pcd.fullName.toList ++ '|' :: ((Text.trim offset).toList ++ '|' ::
      ((shownSize pcd).toList ++ '|' :: (shownValue pcd).toList)) := by
  rw [rowText, Text.join, String.toList_intercalate]
  simp [List.intercalate_cons_cons]

theorem Writable.fullName_letter (writable : Writable pcd offset) {c : Char}
    (member : c ∈ pcd.fullName.toList) : (c.isAlphanum ∨ c = '_') ∨ c = '.' := by
  rw [Pcd.fullName, toList_fullName, List.mem_append, List.mem_cons] at member
  rcases member with inSpace | rfl | inName
  · exact .inl (Text.isAlphanum_of_isIdentifier writable.space c inSpace)
  · exact .inr rfl
  · exact .inl (Text.isAlphanum_of_isIdentifier writable.name c inName)

theorem Writable.fullName_plain (writable : Writable pcd offset) {c : Char}
    (member : c ∈ pcd.fullName.toList) :
    Text.isBlank c = false ∧ c ≠ '|' ∧ c ≠ '"' ∧ c ≠ '\n' ∧ c ≠ '#' := by
  rcases writable.fullName_letter member with letter | rfl
  · have other {mark : Char} : mark.isAlphanum = false → mark ≠ '_' → c ≠ mark :=
      Text.ne_of_isAlphanum letter
    exact ⟨Text.isBlank_of_isAlphanum letter, other rfl (by decide), other rfl (by decide),
      other rfl (by decide), other rfl (by decide)⟩
  · decide

theorem Writable.trim_rowText (writable : Writable pcd offset) :
    Text.trimBoth (rowText pcd offset).toList =
      pcd.fullName.toList ++ '|' :: (offset.toList ++ '|' ::
        ((shownSize pcd).toList ++ '|' :: Text.trimEnd (shownValue pcd).toList)) := by
  have bar : Text.isBlank '|' = false := by decide
  rw [toList_rowText, writable.offset.trimmed, Text.trimBoth]
  -- The name starts with a letter, and what is trimmed at the end comes after the last bar.
  cases letters : pcd.fullName.toList with
  | nil => simp [Pcd.fullName, toList_fullName] at letters
  | cons first rest =>
    obtain ⟨solid, -⟩ := writable.fullName_plain (c := first) (by simp [letters])
    rw [List.cons_append, Text.trimStart_cons solid, ← List.cons_append, Text.trimEnd_append_cons bar,
      Text.trimEnd_append_cons bar, Text.trimEnd_append_cons bar]

theorem Writable.valueFields_rowText (writable : Writable pcd offset) :
    Text.valueFields '|' (Text.trimBoth (rowText pcd offset).toList) =
      [pcd.fullName.toList, offset.toList, Text.trimBoth (shownSize pcd).toList,
        Text.trimBoth (Text.trimEnd (shownValue pcd).toList)] := by
  have bar : '|' ≠ '"' := by decide
  have name : ∀ c ∈ pcd.fullName.toList, c ≠ '|' ∧ c ≠ '"' := fun c member =>
    ⟨(writable.fullName_plain member).2.1, (writable.fullName_plain member).2.2.1⟩
  have place : ∀ c ∈ offset.toList, c ≠ '|' ∧ c ≠ '"' := fun c member =>
    ⟨(writable.offset.plain c member).1, (writable.offset.plain c member).2.1⟩
  have size : ∀ c ∈ (shownSize pcd).toList, c ≠ '|' ∧ c ≠ '"' := fun c member =>
    ⟨(writable.plain_shownSize c member).1, (writable.plain_shownSize c member).2.1⟩
  have trimmedName : Text.trimBoth pcd.fullName.toList = pcd.fullName.toList :=
    Text.trimBoth_of_solid fun c member => (writable.fullName_plain member).1
  have trimmedPlace : Text.trimBoth offset.toList = offset.toList := by
    rw [← Text.toList_trim, writable.offset.trimmed]
  have value := Text.isShielded_trimEnd writable.isLine_shownValue.shielded
  rw [Text.valueFields, writable.trim_rowText, Text.unquotedPieces_plain_append_cons bar name,
    Text.unquotedPieces_plain_append_cons bar place, Text.unquotedPieces_plain_append_cons bar size,
    Text.unquotedPieces_of_isShielded value, List.map_cons, List.map_cons, List.map_cons,
    List.map_singleton, trimmedName, trimmedPlace]

theorem Writable.valueList_rowText (writable : Writable pcd offset) :
    ∃ size value, Text.valueList '|' (Text.trim (rowText pcd offset)) =
      [pcd.fullName, offset, size, value] := by
  rw [Text.valueList, Text.toList_trim, writable.valueFields_rowText, List.map_cons, List.map_cons,
    String.ofList_toList, String.ofList_toList]
  exact ⟨_, _, rfl⟩

theorem Writable.cut_fullName (writable : Writable pcd offset) :
    Text.cutAtFirst? '.' pcd.fullName = some (pcd.id.space, pcd.id.name) := by
  have absent : '.' ∉ pcd.id.space.toList := fun member =>
    Text.ne_of_isAlphanum (Text.isAlphanum_of_isIdentifier writable.space '.' member) rfl (by decide) rfl
  rw [Text.cutAtFirst?, Pcd.fullName, toList_fullName, Text.cutFirst?_append absent]
  simp

theorem Writable.readRow_rowText (writable : Writable pcd offset) :
    readRow (rowText pcd offset) = .ok (some (pcd.id, offset)) := by
  obtain ⟨size, value, fields⟩ := writable.valueList_rowText
  have shown : ¬ (Text.trim (rowText pcd offset) = "" ∨
      Text.startsWith "#" (Text.trim (rowText pcd offset)) = true) := by
    rw [← String.toList_eq_nil_iff, Text.startsWith, Text.toList_trim, writable.trim_rowText]
    cases letters : pcd.fullName.toList with
    | nil => simp [Pcd.fullName, toList_fullName] at letters
    | cons first rest =>
      obtain ⟨-, -, -, -, unmarked⟩ := writable.fullName_plain (c := first) (by simp [letters])
      simp [Text.dropStart?, Ne.symm unmarked]
  unfold readRow
  dsimp only
  rw [if_neg shown, fields]
  simp only [writable.cut_fullName]

theorem Writable.unbroken_rowText (writable : Writable pcd offset) :
    '\n' ∉ (rowText pcd offset).toList := by
  rw [toList_rowText, writable.offset.trimmed]
  intro member
  simp only [List.mem_append, List.mem_cons] at member
  rcases member with name | bar | place | bar | size | bar | value
  · obtain ⟨-, -, -, unbroken, -⟩ := writable.fullName_plain name
    exact unbroken rfl
  · cases bar
  · exact (writable.offset.plain _ place).2.2 rfl
  · cases bar
  · exact (writable.plain_shownSize _ size).2.2 rfl
  · cases bar
  · exact writable.isLine_shownValue.unbroken value

end Rows

section File

def addAll (adds : List (Pcd × String)) : OffsetFile :=
  adds.foldl (fun file add => file.add add.1 add.2) {}

/-- The offsets that are asked for an item, each where it is asked for first. -/
def askedOffsets (adds : List (Pcd × String)) (id : PcdId) : List String :=
  distinct ((adds.filter (·.1.id = id)).map Prod.snd)

theorem get?_requests_addAll (adds : List (Pcd × String)) (id : PcdId) :
    (addAll adds).requests.get? id = (adds.find? (·.1.id = id)).map fun first =>
      { pcd := first.1, offsets := askedOffsets adds id } := by
  induction adds using List.reverseRecOn with
  | nil => rfl
  | append_singleton adds add ih =>
    obtain ⟨pcd, offset⟩ := add
    have last : addAll (adds ++ [(pcd, offset)]) = (addAll adds).add pcd offset := by simp [addAll]
    rw [last, OffsetFile.add, Table.get?_update, List.find?_append]
    by_cases same : id = pcd.id
    · subst same
      have asked : askedOffsets (adds ++ [(pcd, offset)]) pcd.id =
          addNew (askedOffsets adds pcd.id) offset := by
        simp [askedOffsets, distinct_concat]
      rw [if_pos rfl, ih, asked]
      cases found : adds.find? (·.1.id = pcd.id) with
      | some first => rfl
      | none =>
        have none : askedOffsets adds pcd.id = [] := by
          rw [askedOffsets, List.filter_eq_nil_iff.2 fun add member => List.find?_eq_none.1 found add member]
          rfl
        simp [none]
    · have other : ¬ pcd.id = id := fun h => same h.symm
      rw [if_neg same, ih]
      simp [askedOffsets, other]

theorem of_mem_requests_addAll {adds : List (Pcd × String)} {id : PcdId} {request : OffsetRequest}
    (member : (id, request) ∈ (addAll adds).requests.entries) :
    request.offsets = askedOffsets adds id ∧
      ∃ first ∈ adds, first.1 = request.pcd ∧ request.pcd.id = id := by
  rw [Table.mem_entries, get?_requests_addAll, Option.map_eq_some_iff] at member
  obtain ⟨first, found, rfl⟩ := member
  exact ⟨rfl, first, List.mem_of_find?_eq_some found, rfl, by simpa using List.find?_some found⟩

theorem mem_askedOffsets {adds : List (Pcd × String)} {id : PcdId} {offset : String} :
    offset ∈ askedOffsets adds id ↔ ∃ pcd, (pcd, offset) ∈ adds ∧ pcd.id = id := by
  simp [askedOffsets, mem_distinct]

theorem get?_requests_elim (adds : List (Pcd × String)) (id : PcdId) :
    ((addAll adds).requests.get? id).elim [] OffsetRequest.offsets = askedOffsets adds id := by
  rw [get?_requests_addAll]
  cases found : adds.find? (·.1.id = id) with
  | some first => rfl
  | none =>
    rw [askedOffsets, List.filter_eq_nil_iff.2 fun add member => List.find?_eq_none.1 found add member]
    rfl

def headingLines : List String :=
  ["## @file", "#", "#  THIS IS AUTO-GENERATED FILE BY BUILD TOOLS AND PLEASE DO NOT MAKE MODIFICATION.", "#",
    "#  This file lists all VPD information for a platform collected by build.exe.", "#", ""]

theorem heading_eq : heading = Text.join "" (headingLines.map (· ++ "\n")) := by decide +kernel

theorem readRow_headingLines : ∀ line ∈ headingLines, readRow line = .ok none := by
  have silent : ∀ line ∈ headingLines, Text.trim line = "" ∨ Text.startsWith "#" (Text.trim line) := by
    decide +kernel
  intro line member
  rw [readRow, if_pos (silent line member)]

def rowTexts (file : OffsetFile) : List String :=
  file.requests.entries.flatMap fun entry => entry.2.offsets.map (rowText entry.2.pcd)

def askedRows (file : OffsetFile) : List (PcdId × String) :=
  file.requests.entries.flatMap fun entry => entry.2.offsets.map (entry.1, ·)

theorem render_eq (file : OffsetFile) :
    file.render = heading ++ Text.join "" (file.rowTexts.map (· ++ "\n")) := by
  simp only [render, rowTexts, Table.values, List.flatMap_map, List.map_flatMap, List.map_map]
  rfl

theorem row?_headingLines : headingLines.filterMap row? = [] :=
  List.filterMap_eq_nil_iff.2 fun line member => row?_of_readRow (readRow_headingLines line member)

variable {adds : List (Pcd × String)}

theorem writable_of_mem_requests (writable : ∀ add ∈ adds, Writable add.1 add.2) {id : PcdId}
    {request : OffsetRequest} (member : (id, request) ∈ (addAll adds).requests.entries) :
    request.pcd.id = id ∧ ∀ offset ∈ request.offsets, Writable request.pcd offset := by
  obtain ⟨asked, first, added, kept, same⟩ := of_mem_requests_addAll member
  refine ⟨same, fun offset wanted => ?_⟩
  obtain ⟨pcd, also, -⟩ := mem_askedOffsets.1 (asked ▸ wanted)
  exact { kept ▸ writable first added with offset := (writable _ also).offset }

theorem readRow_rowTexts (writable : ∀ add ∈ adds, Writable add.1 add.2) :
    ∀ text ∈ (addAll adds).rowTexts, '\n' ∉ text.toList ∧ readRow text = .ok (row? text) := by
  intro text member
  obtain ⟨⟨id, request⟩, there, inside⟩ := List.mem_flatMap.1 member
  obtain ⟨offset, asked, rfl⟩ := List.mem_map.1 inside
  have row := (writable_of_mem_requests writable there).2 offset asked
  exact ⟨row.unbroken_rowText, row?_of_readRow row.readRow_rowText ▸ row.readRow_rowText⟩

theorem row?_rowTexts (writable : ∀ add ∈ adds, Writable add.1 add.2) :
    (addAll adds).rowTexts.filterMap row? = (addAll adds).askedRows := by
  rw [rowTexts, askedRows, List.filterMap_flatMap]
  refine List.flatMap_congr fun ⟨id, request⟩ member => ?_
  obtain ⟨same, rows⟩ := writable_of_mem_requests writable member
  rw [List.filterMap_map, ← List.filterMap_eq_map]
  refine List.filterMap_congr fun offset asked => ?_
  rw [Function.comp_apply, row?_of_readRow (rows offset asked).readRow_rowText, same]
  rfl

theorem askedOffsets_of_askedRows (adds : List (Pcd × String)) (id : PcdId) :
    ((addAll adds).askedRows.filter (·.1 = id)).map Prod.snd = askedOffsets adds id := by
  rw [askedRows, map_snd_filter_flatMap_entries (addAll adds).requests.nodup_keys OffsetRequest.offsets]
  exact get?_requests_elim adds id

/-- A file that is written out and read again as a map gives each item the offsets that were asked for
it, each once and in the order in which they were added, and gives no other item any. -/
theorem readMap_render (adds : List (Pcd × String)) (writable : ∀ add ∈ adds, Writable add.1 add.2)
    (source : HostPath) :
    ∃ file : OffsetFile, readMap {} source (addAll adds).render = (file, .ok ()) ∧
      ∀ id index, file.offset? id index = (askedOffsets adds id)[index]? := by
  have rows := readRow_rowTexts writable
  have unbroken : ∀ text ∈ headingLines, '\n' ∉ text.toList := by decide +kernel
  have lines : Text.lines (addAll adds).render = headingLines ++ ((addAll adds).rowTexts ++ [""]) := by
    rw [render_eq, heading_eq, Text.lines_join_breaks_append unbroken, ← String.append_empty (s := Text.join ..),
      Text.lines_join_breaks_append fun text member => (rows text member).1]
    rfl
  have blank : readRow "" = .ok none := rfl
  have readable : ∀ line ∈ Text.lines (addAll adds).render, readRow line = .ok (row? line) := by
    intro line member
    rw [lines, List.mem_append, List.mem_append, List.mem_singleton] at member
    rcases member with comment | row | rfl
    · have silent := readRow_headingLines line comment
      exact row?_of_readRow silent ▸ silent
    · exact (rows line row).2
    · exact row?_of_readRow blank ▸ blank
  have said : (Text.lines (addAll adds).render).filterMap row? = (addAll adds).askedRows := by
    rw [lines, List.filterMap_append, List.filterMap_append, row?_headingLines, row?_rowTexts writable,
      List.filterMap_cons_none (row?_of_readRow blank)]
    simp
  refine ⟨_, readRows_of_readable _ _ _ readable, fun id index => ?_⟩
  rw [said, offset?_eq, offsetsOf_foldl_assign, askedOffsets_of_askedRows]
  rfl

def mixedAdds : List (Pcd × String) :=
  let name : Pcd :=
    { id := ⟨"Name", "gSpace"⟩, maxSize? := some "32", value := "0"
      skus := .ofList [("DEFAULT", { value := "L\"a|b\\\"|\" " })] }
  let mode : Pcd := { id := ⟨"Mode", "gSpace"⟩, datumType? := some .uint8, value := "0x1" }
  [(name, "0x10"), (mode, auto), (name, "0x20"), (name, "0x10"), ({ name with value := "" }, auto)]

theorem readMap_render_mixedAdds :
    (∀ add ∈ mixedAdds, Writable add.1 add.2) ∧
      (askedOffsets mixedAdds ⟨"Name", "gSpace"⟩ = ["0x10", "0x20", "*"] ∧
        askedOffsets mixedAdds ⟨"Mode", "gSpace"⟩ = ["*"] ∧ askedOffsets mixedAdds ⟨"Name", "gOther"⟩ = []) ∧
      ∃ file : OffsetFile, readMap {} ⟨"x.map"⟩ (addAll mixedAdds).render = (file, .ok ()) ∧
        ∀ id index, file.offset? id index = (askedOffsets mixedAdds id)[index]? := by
  have writable : ∀ add ∈ mixedAdds, Writable add.1 add.2 := by decide +kernel
  exact ⟨writable, by decide, readMap_render mixedAdds writable ⟨"x.map"⟩⟩

end File

end OffsetFile

end UefiBuild
