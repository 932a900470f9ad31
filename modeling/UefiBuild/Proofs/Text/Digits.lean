import Mathlib.Algebra.Group.Nat.Defs
import Mathlib.Data.List.Induction
import UefiBuild.Proofs.Text.Words
import UefiBuild.Text.Number

namespace UefiBuild.Text

variable {base limit m n d : Nat} {c mark : Char} {cs digits : List Char} {s : String}

theorem toNat_of_isDigit (digit : c.isDigit = true) : '0'.toNat ≤ c.toNat ∧ c.toNat ≤ '9'.toNat := by
  simp only [Char.isDigit, Bool.and_eq_true, decide_eq_true_eq] at digit
  exact digit

def IsDigit (base : Nat) (c : Char) (d : Nat) : Prop :=
  d < base ∧ (c = d.digitChar ∨ c = d.digitChar.toUpper)

/-- Digits with the number that they write, the first of them with the most weight. -/
inductive Numeral (base : Nat) : List Char → Nat → Prop
  | digit {c : Char} {d : Nat} (is : IsDigit base c d) : Numeral base [c] d
  | concat {cs : List Char} {n : Nat} {c : Char} {d : Nat} (front : Numeral base cs n)
    (last : IsDigit base c d) : Numeral base (cs ++ [c]) (n * base + d)

inductive Signed (base : Nat) : List Char → Nat → Prop
  | plain {cs : List Char} {n : Nat} (digits : Numeral base cs n) : Signed base cs n
  | plus {cs : List Char} {n : Nat} (digits : Numeral base cs n) : Signed base ('+' :: cs) n

inductive IsInteger : List Char → Nat → Prop
  | hexadecimal {mark : Char} {cs : List Char} {n : Nat} (marked : mark = 'x' ∨ mark = 'X')
    (value : Signed 16 cs n) : IsInteger ('0' :: mark :: cs) n
  | decimal {cs : List Char} {n : Nat} (value : Signed 10 cs n) : IsInteger cs n

namespace IsDigit

theorem mono (is : IsDigit base c d) (small : base ≤ 16) : IsDigit 16 c d := ⟨is.1.trans_le small, is.2⟩

theorem holds {p : Nat → Char → Prop} (is : IsDigit 16 c d)
    (all : ∀ d < 16, p d d.digitChar ∧ p d d.digitChar.toUpper) : p d c := by
  rcases is.2 with rfl | rfl
  · exact (all d is.1).1
  · exact (all d is.1).2

theorem isBlank (is : IsDigit 16 c d) : isBlank c = false :=
  is.holds (p := fun _ c => Text.isBlank c = false) (by decide)

theorem not_mem_marks (is : IsDigit 16 c d) : c ∉ ['+', '.', 'x', 'X'] :=
  is.holds (p := fun _ c => c ∉ ['+', '.', 'x', 'X']) (by decide)

theorem digit?_eq (is : IsDigit 16 c d) : digit? 16 c = some d :=
  is.holds (p := fun d c => digit? 16 c = some d) (by decide)

theorem of_digit? (found : digit? 16 c = some d) : IsDigit 16 c d := by
  obtain ⟨value, bound⟩ := Option.filter_eq_some_iff.1 found
  have small : d < 16 := of_decide_eq_true bound
  -- in each of the three ranges the code of the letter is its value and a constant
  have letter {code : Nat} (same : c.toNat = code) : c = Char.ofNat code := by rw [← same, Char.ofNat_toNat]
  refine ⟨small, ?_⟩
  split at value
  · rename_i range
    have first : 48 ≤ c.toNat := range.1
    have last : c.toNat ≤ 57 := range.2
    have same : c.toNat - 48 = d := Option.some.inj value
    have figures : ∀ d < 10, Char.ofNat (48 + d) = d.digitChar := by decide
    exact .inl ((letter (by omega)).trans (figures d (by omega)))
  · split at value
    · rename_i range
      have first : 97 ≤ c.toNat := range.1
      have same : c.toNat - 97 + 10 = d := Option.some.inj value
      have letters : ∀ d < 16, 10 ≤ d → Char.ofNat (87 + d) = d.digitChar := by decide
      exact .inl ((letter (by omega)).trans (letters d small (by omega)))
    · split at value
      · rename_i range
        have first : 65 ≤ c.toNat := range.1
        have same : c.toNat - 65 + 10 = d := Option.some.inj value
        have capitals : ∀ d < 16, 10 ≤ d → Char.ofNat (55 + d) = d.digitChar.toUpper := by decide
        exact .inr ((letter (by omega)).trans (capitals d small (by omega)))
      · cases value

end IsDigit

theorem digit?_eq_some_iff (small : base ≤ 16) : digit? base c = some d ↔ IsDigit base c d := by
  have narrowed : digit? base c = some d ↔ digit? 16 c = some d ∧ d < base := by
    simp only [digit?, Option.filter_eq_some_iff, decide_eq_true_eq, and_assoc]
    exact and_congr_right fun _ => ⟨fun bound => ⟨bound.trans_le small, bound⟩, And.right⟩
  rw [narrowed]
  constructor
  · rintro ⟨found, bound⟩
    exact ⟨bound, (IsDigit.of_digit? found).2⟩
  · intro is
    exact ⟨(is.mono small).digit?_eq, is.1⟩

theorem digitsValue?_concat (base acc : Nat) (cs : List Char) (c : Char) :
    digitsValue? base acc (cs ++ [c]) =
      (digitsValue? base acc cs).bind fun n => (digit? base c).map (n * base + ·) := by
  induction cs generalizing acc with
  | nil =>
    rw [List.nil_append, digitsValue?, digitsValue?, Option.bind_some]
    cases digit? base c <;> rfl
  | cons first rest ih => simp only [List.cons_append, digitsValue?, ih, Option.bind_assoc]

namespace Numeral

theorem ne_nil (numeral : Numeral base cs n) : cs ≠ [] := by
  cases numeral with
  | digit is => exact List.cons_ne_nil _ _
  | concat front last => simp

theorem isDigit_of_mem (numeral : Numeral base cs n) (member : c ∈ cs) : ∃ d, IsDigit base c d := by
  induction numeral with
  | digit is => exact ⟨_, List.mem_singleton.1 member ▸ is⟩
  | concat front last ih =>
    rcases List.mem_append.1 member with before | here
    · exact ih before
    · exact ⟨_, List.mem_singleton.1 here ▸ last⟩

theorem plus_not_mem (numeral : Numeral base cs n) (small : base ≤ 16) : '+' ∉ cs := by
  intro member
  obtain ⟨d, is⟩ := numeral.isDigit_of_mem member
  exact (is.mono small).not_mem_marks (by simp)

theorem lt_pow (numeral : Numeral base cs n) : n < base ^ cs.length := by
  induction numeral with
  | digit is => simpa using is.1
  | @concat cs n c d front last ih =>
    rw [List.length_append, List.length_singleton, Nat.pow_succ]
    have room : (n + 1) * base ≤ base ^ cs.length * base := Nat.mul_le_mul_right base ih
    have digit : d < base := last.1
    rw [Nat.add_one_mul] at room
    omega

theorem digitsValue?_eq (numeral : Numeral base cs n) (small : base ≤ 16) :
    digitsValue? base 0 cs = some n := by
  induction numeral with
  | digit is => simp [digitsValue?, (digit?_eq_some_iff small).2 is]
  | concat front last ih =>
    rw [digitsValue?_concat, ih, (digit?_eq_some_iff small).2 last]
    rfl

theorem of_digitsValue? (small : base ≤ 16) (filled : cs ≠ []) (found : digitsValue? base 0 cs = some n) :
    Numeral base cs n := by
  -- a numeral grows at its last digit, so the induction takes the digits from that side
  induction cs using List.reverseRecOn generalizing n with
  | nil => exact absurd rfl filled
  | append_singleton front c ih =>
    rw [digitsValue?_concat] at found
    obtain ⟨m, before, last⟩ := Option.bind_eq_some_iff.1 found
    obtain ⟨d, digit, rfl⟩ := Option.map_eq_some_iff.1 last
    rw [digit?_eq_some_iff small] at digit
    cases front with
    | nil =>
      obtain rfl : 0 = m := Option.some.inj before
      rw [Nat.zero_mul, Nat.zero_add]
      exact .digit digit
    | cons first rest => exact .concat (ih (List.cons_ne_nil _ _) before) digit

theorem cons_zero (numeral : Numeral base cs n) : Numeral base ('0' :: cs) n := by
  induction numeral with
  | @digit c d is =>
    have zero : Numeral base ['0'] 0 := .digit ⟨Nat.zero_lt_of_lt is.1, .inl rfl⟩
    simpa using zero.concat is
  | concat front last ih => exact ih.concat last

theorem append_zeros (numeral : Numeral base cs n) (count : Nat) :
    Numeral base (List.replicate count '0' ++ cs) n := by
  induction count with
  | zero => exact numeral
  | succ count ih => exact ih.cons_zero

end Numeral

theorem numeral_toDigits (proper : 1 < base) (n : Nat) : Numeral base (Nat.toDigits base n) n := by
  induction n using Nat.strongRecOn with
  | ind n ih =>
    rw [Nat.toDigits_eq_if proper]
    split
    · rename_i single
      exact .digit ⟨single, .inl rfl⟩
    · rename_i many
      have shorter : n / base < n := Nat.div_lt_self (by omega) proper
      have last : IsDigit base (n % base).digitChar (n % base) := ⟨Nat.mod_lt n (by omega), .inl rfl⟩
      have whole := (ih _ shorter).concat last
      rwa [Nat.div_add_mod'] at whole

theorem readDigits_eq_some_iff (small : base ≤ 16) :
    (if cs = [] then none else (digitsValue? base 0 cs).filter (· < limit)) = some n ↔
      Numeral base cs n ∧ n < limit := by
  by_cases empty : cs = []
  · rw [if_pos empty]
    exact iff_of_false nofun fun reads => reads.1.ne_nil empty
  · rw [if_neg empty, Option.filter_eq_some_iff, decide_eq_true_eq]
    refine and_congr_left fun _ => ⟨Numeral.of_digitsValue? small empty, fun numeral => ?_⟩
    exact numeral.digitsValue?_eq small

theorem unsigned?_eq_some_iff (small : base ≤ 16) :
    unsigned? base limit cs = some n ↔ Signed base cs n ∧ n < limit := by
  by_cases first : cs.head? = some '+'
  · obtain ⟨rest, rfl⟩ := List.head?_eq_some_iff.1 first
    refine (readDigits_eq_some_iff small).trans (and_congr_left fun _ => ⟨.plus, fun signed => ?_⟩)
    cases signed with
    | plain digits => exact absurd (List.mem_of_head? first) (digits.plus_not_mem small)
    | plus digits => exact digits
  · rw [unsigned?, if_neg first]
    refine (readDigits_eq_some_iff small).trans (and_congr_left fun _ => ⟨.plain, fun signed => ?_⟩)
    cases signed with
    | plain digits => exact digits
    | plus digits => exact absurd rfl first

theorem hexDigits?_eq_some_iff :
    hexDigits? cs = some digits ↔ ∃ mark, (mark = 'x' ∨ mark = 'X') ∧ cs = '0' :: mark :: digits := by
  simp only [hexDigits?, Option.or_eq_some_iff, dropStart?_eq_some_iff]
  constructor
  · rintro (rfl | ⟨-, rfl⟩)
    · exact ⟨'x', .inl rfl, rfl⟩
    · exact ⟨'X', .inr rfl, rfl⟩
  · rintro ⟨mark, rfl | rfl, rfl⟩
    · exact .inl rfl
    · exact .inr ⟨rfl, rfl⟩

theorem hexDigits?_of_marked (marked : mark = 'x' ∨ mark = 'X') :
    hexDigits? ('0' :: mark :: digits) = some digits := hexDigits?_eq_some_iff.2 ⟨mark, marked, rfl⟩

theorem hexDigits?_of_unmarked (small : 'x' ∉ cs) (capital : 'X' ∉ cs) : hexDigits? cs = none := by
  refine Option.eq_none_iff_forall_ne_some.2 fun digits found => ?_
  obtain ⟨mark, rfl | rfl, rfl⟩ := hexDigits?_eq_some_iff.1 found
  · exact small (by simp)
  · exact capital (by simp)

namespace Signed

theorem ne_nil (signed : Signed base cs n) : cs ≠ [] := by
  cases signed with
  | plain digits => exact digits.ne_nil
  | plus digits => exact List.cons_ne_nil _ _

theorem isDigit_of_mem (signed : Signed base cs n) (member : c ∈ cs) :
    c = '+' ∨ ∃ d, IsDigit base c d := by
  cases signed with
  | plain digits => exact .inr (digits.isDigit_of_mem member)
  | plus digits => exact (List.mem_cons.1 member).imp_right digits.isDigit_of_mem

theorem isBlank_of_mem (signed : Signed base cs n) (small : base ≤ 16) (member : c ∈ cs) :
    isBlank c = false := by
  rcases signed.isDigit_of_mem member with rfl | ⟨d, is⟩
  · rfl
  · exact (is.mono small).isBlank

theorem trimBoth_eq (signed : Signed base cs n) (small : base ≤ 16) : trimBoth cs = cs :=
  trimBoth_of_solid fun _ => signed.isBlank_of_mem small

theorem not_mem (signed : Signed base cs n) (small : base ≤ 16) (other : c ∈ ['.', 'x', 'X']) :
    c ∉ cs := by
  intro member
  rcases signed.isDigit_of_mem member with rfl | ⟨d, is⟩
  · revert other
    decide
  · exact (is.mono small).not_mem_marks (List.mem_cons_of_mem _ other)

theorem hexDigits?_eq (signed : Signed base cs n) (small : base ≤ 16) : hexDigits? cs = none :=
  hexDigits?_of_unmarked (signed.not_mem small (by decide)) (signed.not_mem small (by decide))

theorem lt_pow (signed : Signed base cs n) (positive : 0 < base) : n < base ^ cs.length := by
  cases signed with
  | plain digits => exact digits.lt_pow
  | plus digits => exact digits.lt_pow.trans_le (Nat.pow_le_pow_right positive (by simp))

theorem unique (signed : Signed base cs n) (other : Signed base cs m) (small : base ≤ 16) : n = m := by
  have reads {k : Nat} (signed : Signed base cs k) (bound : k < max n m + 1) :
      unsigned? base (max n m + 1) cs = some k := (unsigned?_eq_some_iff small).2 ⟨signed, bound⟩
  exact Option.some.inj ((reads signed (by omega)).symm.trans (reads other (by omega)))

end Signed

theorem parseInt?_eq_some_iff :
    parseInt? s = some n ↔ IsInteger (trimBoth s.toList) n ∧ n < UInt64.size := by
  simp only [parseInt?]
  generalize trimBoth s.toList = cs
  constructor
  · intro found
    split at found
    · rename_i digits split
      obtain ⟨mark, marked, rfl⟩ := hexDigits?_eq_some_iff.1 split
      exact ((unsigned?_eq_some_iff (le_refl 16)).1 found).imp_left (.hexadecimal marked)
    · exact ((unsigned?_eq_some_iff (by decide)).1 found).imp_left .decimal
  · rintro ⟨integer, bound⟩
    cases integer with
    | hexadecimal marked value =>
      rw [hexDigits?_of_marked marked]
      exact (unsigned?_eq_some_iff (le_refl 16)).2 ⟨value, bound⟩
    | decimal value =>
      rw [value.hexDigits?_eq (by decide)]
      exact (unsigned?_eq_some_iff (by decide)).2 ⟨value, bound⟩

theorem parseInt?_trimBoth (cs : List Char) :
    parseInt? (String.ofList (trimBoth cs)) = parseInt? (String.ofList cs) := by
  simp only [parseInt?, String.toList_ofList, trimBoth_trimBoth]

end UefiBuild.Text
