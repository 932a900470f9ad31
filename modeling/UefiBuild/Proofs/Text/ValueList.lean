import UefiBuild.Proofs.Text.Fields
import UefiBuild.Proofs.Text.Quoting

namespace UefiBuild.Text

variable {separator c : Char} {quoting : Quoting} {cs a b : List Char} {pieces : List (List Char)}

section Blanks

theorem Quoting.after_append (quoting : Quoting) (a b : List Char) :
    quoting.after (a ++ b) = (quoting.after a).after b := List.foldl_append

theorem ne_quote_of_isBlank (blank : isBlank c = true) : c ≠ '"' := by
  rintro rfl
  cases blank

theorem Quoting.outside_of_next_blank (blank : isBlank c = true) (closed : quoting.next c = .outside) :
    quoting = .outside := by
  have plain := ne_quote_of_isBlank blank
  cases quoting with
  | outside => rfl
  | inside => by_cases backslash : c = '\\' <;> simp [next, backslash, plain] at closed
  | escaped => cases closed

theorem Quoting.outside_of_after_blanks (blank : ∀ c ∈ b, isBlank c = true)
    (closed : quoting.after b = .outside) : quoting = .outside := by
  induction b generalizing quoting with
  | nil => exact closed
  | cons c rest ih =>
    have next := ih (fun d member => blank d (List.mem_cons_of_mem c member)) closed
    exact outside_of_next_blank (blank c (by simp)) next

theorem after_trimStart (cs : List Char) :
    Quoting.outside.after (trimStart cs) = Quoting.outside.after cs := by
  have unquoted : ∀ c ∈ cs.takeWhile isBlank, c ≠ '"' := fun c member =>
    ne_quote_of_isBlank (List.mem_takeWhile_imp member)
  conv => rhs; rw [← List.takeWhile_append_dropWhile (p := isBlank) (l := cs)]
  rw [Quoting.after_append, after_of_unquoted unquoted]
  rfl

theorem after_trimBoth (closed : Quoting.outside.after cs = .outside) :
    Quoting.outside.after (trimBoth cs) = .outside := by
  obtain ⟨blanks, blank, same⟩ := exists_trimEnd_append (trimStart cs)
  rw [← after_trimStart, ← same, Quoting.after_append] at closed
  exact Quoting.outside_of_after_blanks blank closed

end Blanks

/-- Pieces as they stand between separators: none has a separator outside quotes, and all but the last
close their quotes. -/
structure ArePieces (separator : Char) (pieces : List (List Char)) : Prop where
  filled : pieces ≠ []
  shielded : ∀ piece ∈ pieces, isShielded separator .outside piece
  closed : ∀ piece ∈ pieces.dropLast, Quoting.outside.after piece = .outside

namespace ArePieces

theorem single (shielded : isShielded separator .outside a) : ArePieces separator [a] :=
  ⟨by simp, by simpa using shielded, nofun⟩

theorem cons (shielded : isShielded separator .outside a) (closed : Quoting.outside.after a = .outside)
    (others : ArePieces separator pieces) : ArePieces separator (a :: pieces) := by
  refine ⟨by simp, List.forall_mem_cons.2 ⟨shielded, others.shielded⟩, ?_⟩
  rw [List.dropLast_cons_of_ne_nil others.filled]
  exact List.forall_mem_cons.2 ⟨closed, others.closed⟩

theorem map_trimBoth (arePieces : ArePieces separator pieces) :
    ArePieces separator (pieces.map trimBoth) := by
  refine ⟨by simpa using arePieces.filled, List.forall_mem_map.2 fun piece member => ?_, ?_⟩
  · exact isShielded_trimBoth (arePieces.shielded piece member)
  · rw [← List.map_dropLast]
    exact List.forall_mem_map.2 fun piece member => after_trimBoth (arePieces.closed piece member)

end ArePieces

theorem isShielded_or_exists_cut (separator : Char) (quoting : Quoting) (cs : List Char) :
    isShielded separator quoting cs ∨ ∃ a b, cs = a ++ separator :: b ∧
      isShielded separator quoting a ∧ quoting.after a = .outside := by
  induction cs generalizing quoting with
  | nil => exact .inl rfl
  | cons c rest ih =>
    by_cases here : quoting = .outside ∧ c = separator
    · exact .inr ⟨[], rest, by rw [here.2]; rfl, rfl, here.1⟩
    · have guarded : quoting = .outside → c ≠ separator := fun outside same => here ⟨outside, same⟩
      rcases ih (quoting.next c) with shielded | ⟨a, b, rfl, shielded, closed⟩
      · exact .inl (isShielded_cons_iff.2 ⟨guarded, shielded⟩)
      · exact .inr ⟨c :: a, b, rfl, isShielded_cons_iff.2 ⟨guarded, shielded⟩, closed⟩

theorem arePieces_unquotedPieces (unquoted : separator ≠ '"') (cs : List Char) :
    ArePieces separator (unquotedPieces separator .outside cs) := by
  rcases isShielded_or_exists_cut separator .outside cs with shielded | ⟨a, b, cut, shielded, closed⟩
  · rw [unquotedPieces_of_isShielded shielded]
    exact .single shielded
  · rw [cut, unquotedPieces_append_cons unquoted shielded closed]
    exact .cons shielded closed (arePieces_unquotedPieces unquoted b)
  termination_by cs.length
  decreasing_by
    rw [cut, List.length_append, List.length_cons]
    omega

theorem unquotedPieces_intercalate (unquoted : separator ≠ '"') (arePieces : ArePieces separator pieces) :
    unquotedPieces separator .outside ([separator].intercalate pieces) = pieces := by
  induction pieces with
  | nil => exact absurd rfl arePieces.filled
  | cons first others ih =>
    have shielded := arePieces.shielded first (by simp)
    cases others with
    | nil => rw [List.intercalate_singleton, unquotedPieces_of_isShielded shielded]
    | cons second rest =>
      -- The first piece closes its quotes, so that the separator behind it is the first one outside quotes.
      have closed := arePieces.closed first (by simp)
      have later : ArePieces separator (second :: rest) :=
        ⟨by simp, fun piece member => arePieces.shielded piece (List.mem_cons_of_mem first member),
          fun piece member => arePieces.closed piece (List.mem_cons_of_mem first member)⟩
      rw [List.intercalate_cons_cons, List.append_assoc, List.singleton_append,
        unquotedPieces_append_cons unquoted shielded closed, ih later]

theorem valueFields_intercalate (unquoted : separator ≠ '"') (arePieces : ArePieces separator pieces)
    (trimmed : ∀ piece ∈ pieces, trimBoth piece = piece) :
    valueFields separator ([separator].intercalate pieces) = pieces := by
  rw [valueFields, unquotedPieces_intercalate unquoted arePieces]
  exact (List.map_congr_left trimmed).trans (List.map_id pieces)

theorem valueFields_intercalate_valueFields (unquoted : separator ≠ '"') (cs : List Char) :
    valueFields separator ([separator].intercalate (valueFields separator cs)) =
      valueFields separator cs := by
  refine valueFields_intercalate unquoted (arePieces_unquotedPieces unquoted cs).map_trimBoth ?_
  exact List.forall_mem_map.2 fun piece _ => trimBoth_trimBoth piece

/-- A field as it can be written: trimmed, without separators outside its quotes, and with all quotes
closed. -/
structure IsField (separator : Char) (field : String) : Prop where
  trimmed : trim field = field
  shielded : isShielded separator .outside field.toList
  closed : Quoting.outside.after field.toList = .outside

instance (separator : Char) (field : String) : Decidable (IsField separator field) :=
  decidable_of_iff (trim field = field ∧ isShielded separator .outside field.toList ∧
      Quoting.outside.after field.toList = .outside)
    ⟨fun ⟨trimmed, shielded, closed⟩ => ⟨trimmed, shielded, closed⟩,
      fun field => ⟨field.trimmed, field.shielded, field.closed⟩⟩

theorem arePieces_of_isField {fields : List String} (filled : fields ≠ [])
    (isField : ∀ field ∈ fields, IsField separator field) :
    ArePieces separator (fields.map String.toList) := by
  refine ⟨by simpa using filled, ?_, ?_⟩
  · exact List.forall_mem_map.2 fun field member => (isField field member).shielded
  · rw [← List.map_dropLast]
    exact List.forall_mem_map.2 fun field member => (isField field (List.mem_of_mem_dropLast member)).closed

theorem valueList_join_eq (separator : Char) (fields : List String) :
    valueList separator (join (String.singleton separator) fields) =
      (valueFields separator ([separator].intercalate (fields.map String.toList))).map String.ofList := by
  rw [valueList, toList_join_singleton]

/-- Fields are read back as they were written, and what has been read once is read back from any text. -/
theorem valueList_join (unquoted : separator ≠ '"') :
    (∀ fields, fields ≠ [] → (∀ field ∈ fields, IsField separator field) →
      valueList separator (join (String.singleton separator) fields) = fields) ∧
    ∀ s, valueList separator (join (String.singleton separator) (valueList separator s)) =
      valueList separator s := by
  constructor
  · intro fields filled isField
    have trimmed : ∀ piece ∈ fields.map String.toList, trimBoth piece = piece :=
      List.forall_mem_map.2 fun field member => by
        rw [← toList_trim, (isField field member).trimmed]
    rw [valueList_join_eq, valueFields_intercalate unquoted (arePieces_of_isField filled isField) trimmed]
    simp [Function.comp_def]
  · intro s
    have letters : (valueList separator s).map String.toList = valueFields separator s.toList := by
      simp [valueList, Function.comp_def]
    rw [valueList_join_eq, letters, valueFields_intercalate_valueFields unquoted, valueList]

theorem valueList_join_blanks :
    let fields := ["\"a \\\" b\"", "", "c"]
    let unclosed := "c  \"a \\ "
    ' ' ≠ '"' ∧ (∀ field ∈ fields, IsField ' ' field) ∧
      valueList ' ' (join (String.singleton ' ') fields) = fields ∧
      valueList ' ' unclosed = ["c", "", "\"a \\"] ∧
      valueList ' ' (join (String.singleton ' ') (valueList ' ' unclosed)) = valueList ' ' unclosed := by
  intro fields unclosed
  have unquoted : ' ' ≠ '"' := by decide
  have isField : ∀ field ∈ fields, IsField ' ' field := by decide +kernel
  obtain ⟨written, read⟩ := valueList_join unquoted
  exact ⟨unquoted, isField, written fields (by decide) isField, by decide +kernel, read unclosed⟩

end UefiBuild.Text
