import UefiBuild.Pcd.Datum
import UefiBuild.Proofs.Text.Digits
import UefiBuild.Proofs.Text.Fields

namespace UefiBuild.Blob

variable {value : String} {c d : Char} {cs rest items : List Char} {pieces : List (List Char)}

def IsByteItem (item : List Char) : Prop :=
  Text.trimBoth item = [] ∨ ∃ n ≤ 0xFF, Text.parseInt? (String.ofList item) = some n

/-- A blob as it is documented: a narrow or a wide text between two quotes, or an array between braces. -/
inductive Written : List Char → Prop
  | narrow (letters : List Char) : Written ('"' :: (letters ++ ['"']))
  | wide (letters : List Char) : Written ('L' :: '"' :: (letters ++ ['"']))
  | array (items : List (List Char)) (filled : items ≠ []) (whole : ∀ item ∈ items, ',' ∉ item)
    (bytes : ∀ item ∈ items, IsByteItem item) : Written ('\x7b' :: ([','].intercalate items ++ ['\x7d']))

theorem strayByte?_eq_none_iff :
    strayByte? items = none ↔ ∀ item ∈ Text.pieces (· == ',') items, IsByteItem item := by
  simp only [strayByte?, List.find?_eq_none, List.forall_mem_map]
  refine forall₂_congr fun item _ => ?_
  have byte : (Text.parseInt? (String.ofList item)).any (· ≤ 0xFF) = true ↔
      ∃ n ≤ 0xFF, Text.parseInt? (String.ofList item) = some n := by
    simp only [Option.any_eq_true, decide_eq_true_eq, and_comm]
  rw [Text.parseInt?_trimBoth, Bool.and_eq_true, Bool.not_eq_true', decide_eq_true_eq, ← Bool.not_eq_true,
    byte, ne_eq, String.ofList_eq_empty_iff, not_and_or, not_not, not_not, IsByteItem]

theorem strayByte?_intercalate (filled : pieces ≠ []) (whole : ∀ item ∈ pieces, ',' ∉ item) :
    strayByte? ([','].intercalate pieces) = none ↔ ∀ item ∈ pieces, IsByteItem item := by
  have same : Text.pieces (· == ',') ([','].intercalate pieces) = pieces :=
    Text.pieces_intercalate (by rfl) filled fun item member c inside =>
      beq_eq_false_iff_ne.2 (ne_of_mem_of_not_mem inside (whole item member))
  rw [strayByte?_eq_none_iff, same]

theorem exists_enclosed (first : cs.head? = some c) (last : cs.getLast? = some d) (long : 2 ≤ cs.length) :
    ∃ inner, cs = c :: (inner ++ [d]) := by
  obtain ⟨rest, rfl⟩ := List.head?_eq_some_iff.1 first
  have filled : rest ≠ [] := by
    rintro rfl
    exact absurd long (by simp)
  rw [List.getLast?_cons_of_ne_nil filled] at last
  obtain ⟨inner, rfl⟩ := List.getLast?_eq_some_iff.1 last
  exact ⟨inner, rfl⟩

theorem getLast?_enclosed (c d : Char) (inner : List Char) : (c :: (inner ++ [d])).getLast? = some d := by
  rw [← List.cons_append, List.getLast?_concat]

theorem Written.check_eq (written : Written cs) : check cs = .ok () := by
  cases written with
  | narrow letters => rw [check, if_pos (by simp), if_pos ⟨getLast?_enclosed _ _ _, by simp⟩]
  | wide letters =>
    have opened : Text.dropStart? ['L', '"'] ('L' :: '"' :: (letters ++ ['"'])) = some (letters ++ ['"']) := rfl
    rw [check, opened, if_pos (by simp), if_pos ⟨getLast?_enclosed _ _ ('"' :: letters), by simp⟩]
  | array items filled whole bytes =>
    have none : strayByte? ([','].intercalate items) = none := (strayByte?_intercalate filled whole).2 bytes
    rw [check, if_neg (by simp [Text.dropStart?]), if_pos ⟨rfl, getLast?_enclosed _ _ _⟩, List.tail_cons,
      List.dropLast_concat, none]

/-- Where the mark of a wide text and its last quote are all that there is, one quote is taken for both. -/
theorem written_of_wideQuotes (last : ('L' :: '"' :: rest).getLast? = some '"') :
    Written ('L' :: '"' :: rest) ∨ rest = [] := by
  cases rest with
  | nil => exact .inr rfl
  | cons next others =>
    rw [List.getLast?_cons_of_ne_nil (List.cons_ne_nil _ _)] at last
    obtain ⟨letters, same⟩ := exists_enclosed rfl last (by simp)
    rw [same]
    exact .inl (.wide letters)

theorem written_of_braces (first : cs.head? = some '\x7b') (last : cs.getLast? = some '\x7d')
    (bytes : strayByte? cs.tail.dropLast = none) : Written cs := by
  have long : 2 ≤ cs.length := by
    match cs with
    | [] => cases first
    | [c] => exact absurd ((Option.some.inj first).symm.trans (Option.some.inj last)) (by decide)
    | _ :: _ :: _ => simp
  obtain ⟨items, rfl⟩ := exists_enclosed first last long
  rw [List.tail_cons, List.dropLast_concat, strayByte?_eq_none_iff] at bytes
  rw [← Text.intercalate_pieces ',' items]
  refine .array _ (Text.pieces_ne_nil _ items) (fun item member comma => ?_) bytes
  have kept := Text.cut_of_mem_pieces member ',' comma
  simp at kept

theorem check_eq_ok_iff : check cs = .ok () ↔ Written cs ∨ cs = ['L', '"'] := by
  constructor
  · intro accepted
    unfold check at accepted
    split at accepted
    · rename_i opened
      split at accepted
      · rename_i ended
        rw [Bool.or_eq_true, Text.isSome_dropStart?_iff, decide_eq_true_eq] at opened
        rcases opened with ⟨rest, rfl⟩ | first
        · obtain written | rfl : Written ('L' :: '"' :: rest) ∨ rest = [] := written_of_wideQuotes ended.1
          · exact .inl written
          · exact .inr rfl
        · obtain ⟨letters, rfl⟩ := exists_enclosed first ended.1 ended.2
          exact .inl (.narrow letters)
      · cases accepted
    · split at accepted
      · rename_i braced
        split at accepted
        · cases accepted
        · rename_i bytes
          exact .inl (written_of_braces braced.1 braced.2 bytes)
      · cases accepted
  · rintro (written | rfl)
    · exact written.check_eq
    · rfl

/-- Exactly the blank texts and the documented forms pass, and the mark of a wide text with one quote. -/
theorem check_blob_ok_iff (value : String) :
    DatumType.blob.check value = .ok () ↔
      (Text.trim value = "" ∨ Written (Text.trim value).toList) ∨ Text.trim value = "L\"" := by
  by_cases blank : Text.trim value = ""
  · rw [DatumType.check, if_pos blank]
    exact iff_of_true rfl (.inl (.inl blank))
  · have checked : DatumType.blob.check value = check (Text.trim value).toList := by
      rw [DatumType.check, if_neg blank]
    have alone : (Text.trim value).toList = ['L', '"'] ↔ Text.trim value = "L\"" := by
      rw [← String.toList_inj]
      rfl
    rw [checked, check_eq_ok_iff, alone, or_iff_right blank]

/-- The one quote of this text opens it, and none closes it. -/
theorem check_blob_openWideText :
    DatumType.blob.check "L\"" = .ok () ∧
      ¬ (Text.trim "L\"" = "" ∨ Written (Text.trim "L\"").toList) := by
  refine ⟨rfl, ?_⟩
  rintro (blank | written)
  · exact absurd blank (by decide)
  · have letters : (Text.trim "L\"").toList = ['L', '"'] := by decide
    generalize (Text.trim "L\"").toList = cs at written letters
    cases written with
    | narrow inner => cases letters
    | wide inner => simp at letters
    | array items filled whole bytes => cases letters

end UefiBuild.Blob
