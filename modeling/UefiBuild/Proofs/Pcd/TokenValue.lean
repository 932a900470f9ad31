import UefiBuild.Pcd.Datum
import UefiBuild.Proofs.Text.Digits

namespace UefiBuild.TokenValue

variable {text : String} {n : Nat} {cs : List Char}

/-- A token value as it is written with numerals of a kind: after the mark of base sixteen in at most eight
letters, or in base ten with a number of at most 32 bits. -/
inductive Written (numeral : Nat → List Char → Nat → Prop) : List Char → Nat → Prop
  | hexadecimal {mark : Char} {digits : List Char} {n : Nat} (marked : mark = 'x' ∨ mark = 'X')
    (short : digits.length ≤ 8) (value : numeral 16 digits n) : Written numeral ('0' :: mark :: digits) n
  | decimal {digits : List Char} {n : Nat} (value : numeral 10 digits n) (bound : n < UInt32.size) :
    Written numeral digits n

theorem Written.lt (written : Written Text.Signed cs n) : n < UInt32.size := by
  cases written with
  | hexadecimal marked short value =>
    -- eight digits of base sixteen are 32 bits, so the length bounds the number
    exact (value.lt_pow (by decide)).trans_le (Nat.pow_le_pow_right (by decide) short)
  | decimal value bound => exact bound

theorem written_numeral_iff : Written Text.Numeral cs n ↔ Written Text.Signed cs n ∧ '+' ∉ cs := by
  constructor
  · intro written
    cases written with
    | hexadecimal marked short value =>
      refine ⟨.hexadecimal marked short (.plain value), ?_⟩
      have plain := value.plus_not_mem (le_refl 16)
      rcases marked with rfl | rfl <;> simpa using plain
    | decimal value bound => exact ⟨.decimal (.plain value) bound, value.plus_not_mem (by decide)⟩
  · rintro ⟨written, plain⟩
    cases written with
    | hexadecimal marked short value =>
      cases value with
      | plain digits => exact .hexadecimal marked short digits
      | plus digits => simp at plain
    | decimal value bound =>
      cases value with
      | plain digits => exact .decimal digits bound
      | plus digits => simp at plain

theorem Written.read_eq (written : Written Text.Signed (Text.trimBoth text.toList) n) : read text = .ok n := by
  have bound : n < UInt32.size := written.lt
  simp only [read]
  generalize Text.trimBoth text.toList = cs at written
  cases written with
  | hexadecimal marked short value =>
    rw [if_neg (List.cons_ne_nil _ _), Text.hexDigits?_of_marked marked]
    simp only [if_neg (Nat.not_lt.2 short), (Text.unsigned?_eq_some_iff (le_refl 16)).2 ⟨value, bound⟩,
      Option.elim]
  | decimal value =>
    have wide : n < UInt64.size := bound.trans (by decide)
    rw [if_neg value.ne_nil, value.hexDigits?_eq (by decide)]
    simp only [(Text.unsigned?_eq_some_iff (by decide)).2 ⟨value, wide⟩, if_pos bound]

theorem written_of_read (accepted : read text = .ok n) : Written Text.Signed (Text.trimBoth text.toList) n := by
  simp only [read] at accepted
  generalize Text.trimBoth text.toList = cs at accepted ⊢
  split at accepted
  · cases accepted
  · split at accepted
    · rename_i digits split
      obtain ⟨mark, marked, rfl⟩ := Text.hexDigits?_eq_some_iff.1 split
      split at accepted
      · cases accepted
      · rename_i short
        cases found : Text.unsigned? 16 UInt32.size digits with
        | none => simp [found] at accepted
        | some value =>
          obtain rfl : value = n := by simpa [found] using accepted
          have signed := ((Text.unsigned?_eq_some_iff (le_refl 16)).1 found).1
          exact .hexadecimal marked (Nat.not_lt.1 short) signed
    · split at accepted
      · cases accepted
      · rename_i value found
        split at accepted
        · rename_i bound
          obtain rfl := Except.ok.inj accepted
          exact .decimal ((Text.unsigned?_eq_some_iff (by decide)).1 found).1 bound
        · cases accepted

theorem read_eq_ok_iff : read text = .ok n ↔ Written Text.Signed (Text.trimBoth text.toList) n :=
  ⟨written_of_read, Written.read_eq⟩

theorem lt_of_read (accepted : read text = .ok n) : n < UInt32.size := (written_of_read accepted).lt

theorem read_toString (bound : n < UInt32.size) : read (toString n) = .ok n := by
  have digits : Text.Signed 10 (Nat.toDigits 10 n) n := .plain (Text.numeral_toDigits (by decide) n)
  rw [read_eq_ok_iff, Nat.toString_eq_ofList_toDigits, String.toList_ofList, digits.trimBoth_eq (by decide)]
  exact .decimal digits bound

/-- What is read is what is written with numerals that can have a plus in front. So a text is read as it is
documented exactly if it has no plus or is refused. -/
theorem read_ok_iff_written (text : String) :
    (∀ n, read text = .ok n ↔ Written Text.Signed (Text.trim text).toList n) ∧
    ((∀ n, read text = .ok n ↔ Written Text.Numeral (Text.trim text).toList n) ↔
      ('+' ∈ (Text.trim text).toList → ∀ n, read text ≠ .ok n)) := by
  simp only [Text.toList_trim]
  refine ⟨fun n => read_eq_ok_iff, fun agree plus n accepted => ?_, fun refused n => ?_⟩
  · exact (written_numeral_iff.1 ((agree n).1 accepted)).2 plus
  · rw [written_numeral_iff, ← read_eq_ok_iff]
    exact ⟨fun accepted => ⟨accepted, fun plus => refused plus n accepted⟩, And.left⟩

theorem read_ok_signedDigit :
    read "0x+1" = .ok 1 ∧ ¬ Written Text.Numeral (Text.trim "0x+1").toList 1 := by
  refine ⟨rfl, fun written => ?_⟩
  exact (written_numeral_iff.1 written).2 (by decide)

end UefiBuild.TokenValue
