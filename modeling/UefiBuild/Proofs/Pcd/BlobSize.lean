import UefiBuild.Pcd.Datum
import UefiBuild.Proofs.Text.Fields

namespace UefiBuild.Blob

variable {value : String} {c : Char} {cs rest blanks : List Char} {bytes : Nat}

/-- The bytes of a blob: a wide or a narrow text with the zero that ends it, or the items of an array. -/
inductive Occupies : List Char → Nat → Prop
  | wide (letters : List Char) : Occupies ('L' :: '"' :: (letters ++ ['"'])) (2 * (letters.length + 1))
  | narrow (letters : List Char) : Occupies ('"' :: (letters ++ ['"'])) (letters.length + 1)
  | array (items : List Char) : Occupies ('\x7b' :: (items ++ ['\x7d']))
      ((Text.pieces (· == ',') items).countP fun item => Text.trimBoth item ≠ [])

def fullSize : List Char → Nat
  | [] => 1
  | 'L' :: rest => 2 * (rest.length + 1)
  | '\x7b' :: rest => (Text.pieces (· == ',') rest).length
  | cs => cs.length

theorem toNat_derivedSize (value : String) :
    (derivedSize value).toNat = fullSize value.toList % UInt32.size := by
  have narrowed : derivedSize value = (fullSize value.toList).toUInt32 := by
    unfold derivedSize
    split <;> simp_all [fullSize]
  rw [narrowed]
  exact UInt32.toNat_ofNat'

theorem fullSize_cons (unmarked : c ≠ 'L') (unbraced : c ≠ '\x7b') (rest : List Char) :
    fullSize (c :: rest) = (c :: rest).length := by
  unfold fullSize
  split <;> simp_all

theorem fullSize_of_indented (blank : Text.isBlank c = true) (rest : List Char) :
    fullSize (c :: rest) = (c :: rest).length := by
  refine fullSize_cons ?_ ?_ rest <;> rintro rfl <;> cases blank

theorem countP_pieces_le (p : List Char → Bool) (items : List Char) :
    (Text.pieces (· == ',') items).countP p ≤ items.countP (· == ',') + 1 := by
  rw [← Text.length_pieces]
  exact List.countP_le_length

theorem Occupies.le_length (occupies : Occupies cs bytes) (unmarked : cs.head? ≠ some 'L') :
    bytes ≤ cs.length := by
  cases occupies with
  | wide letters => exact absurd rfl unmarked
  | narrow letters => simp
  | array items =>
    have few := countP_pieces_le (fun item => Text.trimBoth item ≠ []) items
    have within : items.countP (· == ',') ≤ items.length := List.countP_le_length
    rw [List.length_cons, List.length_append]
    omega

theorem Occupies.le_fullSize (occupies : Occupies cs bytes) (after : List Char) :
    bytes ≤ fullSize (cs ++ after) := by
  cases occupies with
  | wide letters =>
    simp only [List.cons_append, fullSize, List.length_cons, List.length_append]
    omega
  | narrow letters =>
    rw [List.cons_append, fullSize_cons (by decide) (by decide)]
    simp only [List.length_cons, List.length_append]
    omega
  | array items =>
    have few := countP_pieces_le (fun item => Text.trimBoth item ≠ []) items
    simp only [List.cons_append, fullSize, Text.length_pieces, List.countP_append]
    omega

theorem Occupies.fullSize_le (occupies : Occupies cs bytes) (unbraced : cs.head? ≠ some '\x7b') :
    fullSize cs ≤ bytes + 4 := by
  cases occupies with
  | wide letters =>
    simp only [fullSize, List.length_cons, List.length_append, List.length_nil]
    omega
  | narrow letters =>
    rw [fullSize_cons (by decide) (by decide)]
    simp only [List.length_cons, List.length_append, List.length_nil]
    omega
  | array items => exact absurd rfl unbraced

theorem occupied_le_fullSize_iff (occupies : Occupies (Text.trimBoth cs) bytes) :
    bytes ≤ fullSize cs ↔
      ((Text.trimBoth cs).head? = some 'L' → cs.head? = some 'L' ∨ bytes ≤ cs.length) := by
  obtain ⟨before, after, blank, -, parts⟩ := Text.exists_blanks cs
  cases before with
  | nil =>
    rw [List.nil_append] at parts
    have enough := occupies.le_fullSize after
    rw [parts] at enough
    refine ⟨fun _ marked => .inl ?_, fun _ => enough⟩
    obtain ⟨rest, first⟩ := List.head?_eq_some_iff.1 marked
    rw [← parts, first]
    rfl
  | cons c blanks =>
    have indented : fullSize cs = cs.length := by
      rw [← parts]
      exact fullSize_of_indented (blank c (by simp)) _
    have unmarked : cs.head? ≠ some 'L' := by
      rw [← parts]
      rintro ⟨⟩
      cases blank 'L' (by simp)
    have inside : (Text.trimBoth cs).length ≤ cs.length := (Text.trimBoth_sublist cs).length_le
    rw [indented]
    refine ⟨fun enough _ => .inr enough, fun wide => ?_⟩
    by_cases marked : (Text.trimBoth cs).head? = some 'L'
    · exact (wide marked).resolve_left unmarked
    · exact (occupies.le_length marked).trans inside

/-- Up to 32 bits a derived size is too small for wide texts only, and only for those that have blanks before
them and more letters than the blanks make up for. A size that does not fit into 32 bits is too small. -/
theorem occupied_le_derivedSize_iff (occupies : Occupies (Text.trim value).toList bytes) :
    (fullSize value.toList < UInt32.size →
      (bytes ≤ (derivedSize value).toNat ↔ ((Text.trim value).toList.head? = some 'L' →
        value.toList.head? = some 'L' ∨ bytes ≤ value.length))) ∧
    (UInt32.size ≤ fullSize value.toList → Text.trim value = value → value.toList.head? ≠ some '\x7b' →
      (derivedSize value).toNat < bytes) := by
  rw [toNat_derivedSize]
  refine ⟨fun fits => ?_, fun large trimmed unbraced => ?_⟩
  · rw [Nat.mod_eq_of_lt fits, Text.toList_trim, ← String.length_toList]
    rw [Text.toList_trim] at occupies
    exact occupied_le_fullSize_iff occupies
  · rw [trimmed] at occupies
    have close := occupies.fullSize_le unbraced
    have room : 4 < UInt32.size := by decide
    rw [Nat.mod_eq_sub_mod large]
    have cut := Nat.mod_le (fullSize value.toList - UInt32.size) UInt32.size
    omega

/-- Two blanks make up for three letters. A narrow text of `2 ^ 32` letters gets two bytes. -/
theorem occupied_le_derivedSize_indented_and_long :
    (Occupies (Text.trim "  L\"abc\"").toList 8 ∧ fullSize "  L\"abc\"".toList < UInt32.size ∧
      8 ≤ (derivedSize "  L\"abc\"").toNat) ∧
    ∃ value bytes, Occupies (Text.trim value).toList bytes ∧ UInt32.size ≤ fullSize value.toList ∧
      Text.trim value = value ∧ value.toList.head? ≠ some '\x7b' ∧ (derivedSize value).toNat < bytes := by
  constructor
  · have occupies : Occupies (Text.trim "  L\"abc\"").toList 8 := Occupies.wide ['a', 'b', 'c']
    have fits : fullSize "  L\"abc\"".toList < UInt32.size := by decide
    exact ⟨occupies, fits, ((occupied_le_derivedSize_iff occupies).1 fits).2 fun _ => .inr (by decide)⟩
  · -- the letters are kept behind their length, so that nothing counts them one by one
    obtain ⟨letters, long, same⟩ : ∃ letters : List Char, letters.length = UInt32.size ∧ ∀ c ∈ letters, c = 'a' :=
      ⟨List.replicate UInt32.size 'a', List.length_replicate, fun c => List.eq_of_mem_replicate⟩
    let value := String.ofList ('"' :: (letters ++ ['"']))
    have text : value.toList = '"' :: (letters ++ ['"']) := String.toList_ofList
    have trimmed : Text.trim value = value := by
      rw [Text.trim_eq_self_iff, text]
      refine Text.trimBoth_of_solid fun c member => ?_
      rcases List.mem_cons.1 member with rfl | member
      · rfl
      · rcases List.mem_append.1 member with inside | mark
        · rw [same c inside]
          rfl
        · rw [List.mem_singleton.1 mark]
          rfl
    have occupies : Occupies (Text.trim value).toList (letters.length + 1) := by
      rw [trimmed, text]
      exact .narrow letters
    have large : UInt32.size ≤ fullSize value.toList := by
      rw [text, fullSize_cons (by decide) (by decide), List.length_cons, List.length_append]
      omega
    have unbraced : value.toList.head? ≠ some '\x7b' := by
      rw [text]
      simp
    exact ⟨value, _, occupies, large, trimmed, unbraced,
      (occupied_le_derivedSize_iff occupies).2 large trimmed unbraced⟩

/-- With one blank the size is a byte short, and the value passes as it would without. -/
theorem derivedSize_oneBlank_short :
    DatumType.blob.check " L\"abc\"" = .ok () ∧ Occupies (Text.trim " L\"abc\"").toList 8 ∧
      (derivedSize " L\"abc\"").toNat = 7 :=
  ⟨by decide, Occupies.wide ['a', 'b', 'c'], by decide⟩

end UefiBuild.Blob
