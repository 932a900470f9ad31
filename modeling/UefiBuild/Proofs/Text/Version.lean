import Mathlib.Data.Prod.Lex
import UefiBuild.Proofs.Text.Digits
import UefiBuild.Proofs.Text.Lines

namespace UefiBuild.Text

variable {a b c d m n width count : Nat} {s t v w : String} {cs : List Char} {letter : Char}

section Padding

theorem hexPadded_succ (positive : 0 < width) (n : Nat) :
    hexPadded (width + 1) n = hexPadded width (n / 16) ++ [(n % 16).digitChar] := by
  simp only [hexPadded]
  by_cases single : n < 16
  · have front : n / 16 = 0 := Nat.div_eq_of_lt single
    have zeros : List.replicate width '0' = List.replicate (width - 1) '0' ++ ['0'] := by
      rw [← List.replicate_succ', Nat.sub_add_cancel positive]
    rw [front, Nat.mod_eq_of_lt single, Nat.toDigits_of_lt_base single, Nat.toDigits_zero,
      List.length_singleton, List.length_singleton, Nat.add_sub_cancel, zeros]
  · rw [Nat.toDigits_of_base_le (by decide) (Nat.not_lt.1 single), List.length_append,
      List.length_singleton, Nat.add_sub_add_right, List.append_assoc]

theorem hexPadded_append (positive : 0 < width) (bound : b < 16 ^ (count + 1)) :
    hexPadded width a ++ hexPadded (count + 1) b =
      hexPadded (width + (count + 1)) (a * 16 ^ (count + 1) + b) := by
  induction count generalizing b with
  | zero =>
    have single : b < 16 := by simpa using bound
    have last : hexPadded 1 b = [b.digitChar] := by
      rw [hexPadded, Nat.toDigits_of_lt_base single]
      rfl
    have front : (a * 16 ^ 1 + b) / 16 = a := by omega
    have back : (a * 16 ^ 1 + b) % 16 = b := by omega
    rw [Nat.zero_add, last, hexPadded_succ positive, front, back]
  | succ count ih =>
    rw [Nat.pow_succ] at bound ⊢
    have front : (a * (16 ^ (count + 1) * 16) + b) / 16 = a * 16 ^ (count + 1) + b / 16 := by
      rw [← Nat.mul_assoc]
      omega
    have back : (a * (16 ^ (count + 1) * 16) + b) % 16 = b % 16 := by
      rw [← Nat.mul_assoc]
      omega
    calc hexPadded width a ++ hexPadded (count + 1 + 1) b
      _ = hexPadded width a ++ hexPadded (count + 1) (b / 16) ++ [(b % 16).digitChar] := by
        rw [hexPadded_succ (by omega), List.append_assoc]
      _ = hexPadded (width + (count + 1)) (a * 16 ^ (count + 1) + b / 16) ++ [(b % 16).digitChar] := by
        rw [ih (by omega)]
      _ = hexPadded (width + (count + 1) + 1) (a * (16 ^ (count + 1) * 16) + b) := by
        rw [hexPadded_succ (by omega), front, back]

theorem length_hexPadded_eq_iff (positive : 0 < width) (n : Nat) :
    (hexPadded width n).length = width ↔ n < 16 ^ width := by
  rw [← Nat.length_toDigits_le_iff (by decide) positive, hexPadded, List.length_append,
    List.length_replicate]
  omega

theorem numeral_hexPadded (width n : Nat) : Numeral 16 (hexPadded width n) n :=
  (numeral_toDigits (by decide) n).append_zeros _

def IsSmallDigit (letter : Char) : Prop := '0' ≤ letter ∧ letter ≤ '9' ∨ 'a' ≤ letter ∧ letter ≤ 'f'

instance (letter : Char) : Decidable (IsSmallDigit letter) := inferInstanceAs (Decidable (_ ∨ _))

theorem isSmallDigit_digitChar : ∀ d < 16, IsSmallDigit d.digitChar := by decide

theorem isSmallDigit_of_mem_toDigits (member : letter ∈ Nat.toDigits 16 n) : IsSmallDigit letter := by
  induction n using Nat.strongRecOn with
  | ind n ih =>
    rw [Nat.toDigits_eq_if (by decide)] at member
    split at member
    · rename_i single
      exact List.mem_singleton.1 member ▸ isSmallDigit_digitChar n single
    · rename_i many
      rcases List.mem_append.1 member with front | last
      · exact ih _ (Nat.div_lt_self (by omega) (by decide)) front
      · exact List.mem_singleton.1 last ▸ isSmallDigit_digitChar _ (Nat.mod_lt n (by decide))

theorem isSmallDigit_of_mem_hexPadded (member : letter ∈ hexPadded width n) : IsSmallDigit letter := by
  rcases List.mem_append.1 member with zero | digit
  · exact List.eq_of_mem_replicate zero ▸ isSmallDigit_digitChar 0 (by decide)
  · exact isSmallDigit_of_mem_toDigits digit

end Padding

section Pairs

inductive IsMajorMinor : List Char → Nat → Nat → Prop
  | point {before after : List Char} {major minor : Nat} (first : Signed 10 before major)
    (second : Signed 10 after minor) : IsMajorMinor (before ++ '.' :: after) major minor

namespace IsMajorMinor

theorem exists_cut (numbers : IsMajorMinor cs a b) :
    ∃ before after, cutFirst? '.' cs = some (before, after) ∧ Signed 10 before a ∧ Signed 10 after b := by
  cases numbers with
  | point first second =>
    exact ⟨_, _, cutFirst?_append (first.not_mem (by decide) (by decide)) _, first, second⟩

theorem unique (numbers : IsMajorMinor cs a b) (other : IsMajorMinor cs c d) : a = c ∧ b = d := by
  obtain ⟨before, after, cut, first, second⟩ := numbers.exists_cut
  obtain ⟨before', after', same, first', second'⟩ := other.exists_cut
  obtain ⟨rfl, rfl⟩ := Prod.mk.inj (Option.some.inj (cut.symm.trans same))
  exact ⟨first.unique first' (by decide), second.unique second' (by decide)⟩

theorem not_mem (numbers : IsMajorMinor cs a b) (mark : letter = 'x' ∨ letter = 'X') : letter ∉ cs := by
  have other : letter ∈ ['.', 'x', 'X'] := by rcases mark with rfl | rfl <;> decide
  intro member
  cases numbers with
  | point first second =>
    rcases List.mem_append.1 member with before | later
    · exact first.not_mem (by decide) other before
    · rcases List.mem_cons.1 later with rfl | after
      · revert mark
        decide
      · exact second.not_mem (by decide) other after

theorem hexDigits?_eq (numbers : IsMajorMinor cs a b) : hexDigits? cs = none :=
  hexDigits?_of_unmarked (numbers.not_mem (.inl rfl)) (numbers.not_mem (.inr rfl))

end IsMajorMinor

theorem pair_lt (first : a < UInt16.size) (second : b < UInt16.size) :
    a * UInt16.size + b < UInt32.size := by
  simp only [UInt16.size, UInt32.size] at *
  omega

theorem pair_le_pair_iff (former : b < UInt16.size) (latter : d < UInt16.size) :
    a * UInt16.size + b ≤ c * UInt16.size + d ↔ toLex (a, b) ≤ toLex (c, d) := by
  rw [Prod.Lex.toLex_le_toLex]
  simp only [UInt16.size] at *
  omega

end Pairs

section Versions

/-- The versions that can be read, with the number that each of them stands for: any number of 64 bits in
base sixteen, or 16 bits for each of two numbers, the second one being zero where it is left out. -/
inductive IsVersion : List Char → Nat → Prop
  | number {mark : Char} {digits : List Char} {n : Nat} (marked : mark = 'x' ∨ mark = 'X')
    (value : Signed 16 digits n) (bound : n < UInt64.size) : IsVersion ('0' :: mark :: digits) n
  | pair {cs : List Char} {major minor : Nat} (numbers : IsMajorMinor cs major minor)
    (first : major < UInt16.size) (second : minor < UInt16.size) : IsVersion cs (major * UInt16.size + minor)
  | single {cs : List Char} {major : Nat} (number : Signed 10 cs major) (first : major < UInt16.size) :
    IsVersion cs (major * UInt16.size)

theorem IsVersion.lt (version : IsVersion cs n) : n < UInt64.size := by
  have narrow : UInt32.size < UInt64.size := by decide
  cases version with
  | number marked value bound => exact bound
  | pair numbers first second => exact (pair_lt first second).trans narrow
  | single number first =>
    have low := pair_lt first (b := 0) (by decide)
    rw [Nat.add_zero] at low
    exact low.trans narrow

theorem IsVersion.eq_of_isMajorMinor (version : IsVersion cs n) (numbers : IsMajorMinor cs a b) :
    n = a * UInt16.size + b ∧ a < UInt16.size ∧ b < UInt16.size := by
  cases version with
  | number marked value bound =>
    have split := numbers.hexDigits?_eq
    rw [hexDigits?_of_marked marked] at split
    cases split
  | pair others first second =>
    obtain ⟨rfl, rfl⟩ := numbers.unique others
    exact ⟨rfl, first, second⟩
  | single number first =>
    cases numbers with
    | point major minor => exact absurd (by simp) (number.not_mem (by decide) (c := '.') (by decide))

def versionText (n : Nat) : String := String.ofList ('0' :: 'x' :: hexPadded 8 n)

theorem versionText_pair (bound : b < UInt16.size) :
    versionText (a * UInt16.size + b) = String.ofList ('0' :: 'x' :: (hexPadded 4 a ++ hexPadded 4 b)) := by
  have side : hexPadded 4 a ++ hexPadded 4 b = hexPadded 8 (a * UInt16.size + b) :=
    hexPadded_append (Nat.succ_pos 3) bound
  rw [side, versionText]

theorem versionText_single (a : Nat) :
    versionText (a * UInt16.size) = String.ofList ('0' :: 'x' :: (hexPadded 4 a ++ hexPadded 4 0)) := by
  rw [← versionText_pair (by decide), Nat.add_zero]

theorem unsigned?_word_iff : unsigned? 10 UInt16.size cs = some n ↔ Signed 10 cs n ∧ n < UInt16.size :=
  unsigned?_eq_some_iff (by decide)

theorem parseInt?_trimmed_iff (cs : List Char) :
    parseInt? (String.ofList (trimBoth cs)) = some n ↔ IsInteger (trimBoth cs) n ∧ n < UInt64.size := by
  rw [parseInt?_trimBoth, parseInt?_eq_some_iff, String.toList_ofList]

theorem IsVersion.hexVersion?_eq (version : IsVersion (trimBoth s.toList) n) :
    hexVersion? s = some (versionText n) := by
  have integers {n : Nat} := parseInt?_trimmed_iff s.toList (n := n)
  simp only [hexVersion?]
  generalize trimBoth s.toList = cs at version integers
  cases version with
  | number marked value bound =>
    rw [hexDigits?_of_marked marked, if_pos Option.isSome_some,
      integers.2 ⟨.hexadecimal marked value, bound⟩]
    rfl
  | pair numbers first second =>
    obtain ⟨before, after, cut, major, minor⟩ := numbers.exists_cut
    rw [numbers.hexDigits?_eq, versionText_pair second, cut]
    simp only [unsigned?_word_iff.2 ⟨major, first⟩, unsigned?_word_iff.2 ⟨minor, second⟩]
    rfl
  | single number first =>
    rw [number.hexDigits?_eq (by decide), cutFirst?_of_absent (number.not_mem (by decide) (by decide)),
      unsigned?_word_iff.2 ⟨number, first⟩]
    exact congrArg some (versionText_single _).symm

theorem exists_version_of_hexVersion? (accepted : hexVersion? s = some v) :
    ∃ n, IsVersion (trimBoth s.toList) n ∧ v = versionText n := by
  have integers {n : Nat} := parseInt?_trimmed_iff s.toList (n := n)
  simp only [hexVersion?] at accepted
  generalize trimBoth s.toList = cs at accepted integers ⊢
  split at accepted
  · rename_i marked
    obtain ⟨n, read, rfl⟩ := Option.map_eq_some_iff.1 accepted
    obtain ⟨integer, bound⟩ := integers.1 read
    cases integer with
    | hexadecimal mark value => exact ⟨n, .number mark value bound, rfl⟩
    | decimal value =>
      rw [value.hexDigits?_eq (by decide)] at marked
      cases marked
  · split at accepted
    · rename_i before after cut
      obtain ⟨major, first, later⟩ := Option.bind_eq_some_iff.1 accepted
      obtain ⟨minor, second, same⟩ := Option.bind_eq_some_iff.1 later
      rw [unsigned?_word_iff] at first second
      have numbers : IsMajorMinor cs major minor := eq_of_cutFirst? cut ▸ .point first.1 second.1
      refine ⟨_, .pair numbers first.2 second.2, ?_⟩
      rw [versionText_pair second.2]
      exact (Option.some.inj same).symm
    · obtain ⟨major, first, rfl⟩ := Option.map_eq_some_iff.1 accepted
      rw [unsigned?_word_iff] at first
      exact ⟨_, .single first.1 first.2, (versionText_single major).symm⟩

/-- The form in which the number of a version is kept. After the mark it has digits of base sixteen with
small letters, eight of them if the number has at most 32 bits. It is read as the number and kept as it is. -/
structure IsNormal (v : String) (n : Nat) : Prop where
  digits : ∃ digits, v.toList = '0' :: 'x' :: digits ∧ (∀ letter ∈ digits, IsSmallDigit letter) ∧
    (digits.length = 8 ↔ n < UInt32.size)
  read : parseInt? v = some n
  kept : hexVersion? v = some v

theorem isNormal_versionText (bound : n < UInt64.size) : IsNormal (versionText n) n := by
  have text : (versionText n).toList = '0' :: 'x' :: hexPadded 8 n := String.toList_ofList
  have numeral : Signed 16 (hexPadded 8 n) n := .plain (numeral_hexPadded 8 n)
  have trimmed : trimBoth (versionText n).toList = '0' :: 'x' :: hexPadded 8 n := by
    rw [text]
    refine trimBoth_of_solid (List.forall_mem_cons.2 ⟨rfl, List.forall_mem_cons.2 ⟨rfl, ?_⟩⟩)
    exact fun letter => numeral.isBlank_of_mem (by decide)
  refine ⟨⟨_, text, fun letter => isSmallDigit_of_mem_hexPadded, ?_⟩, ?_, ?_⟩
  · exact length_hexPadded_eq_iff (by decide) n
  · exact parseInt?_eq_some_iff.2 ⟨trimmed ▸ .hexadecimal (.inl rfl) numeral, bound⟩
  · exact IsVersion.hexVersion?_eq (trimmed ▸ .number (.inl rfl) numeral bound)

/-- A version that can be read is brought into the normal form of its number, and the numbers of two pairs are
in the order of the pairs. Only numbers of more than 32 bits, which no pair has, take more than eight digits. -/
theorem hexVersion?_normal_ordered (first : hexVersion? s = some v) (second : hexVersion? t = some w) :
    ∃ m n, (IsVersion (trim s).toList m ∧ IsNormal v m) ∧ (IsVersion (trim t).toList n ∧ IsNormal w n) ∧
      ∀ a b c d, IsMajorMinor (trim s).toList a b → IsMajorMinor (trim t).toList c d →
        m < UInt32.size ∧ n < UInt32.size ∧ (m ≤ n ↔ toLex (a, b) ≤ toLex (c, d)) := by
  simp only [toList_trim]
  obtain ⟨m, left, rfl⟩ := exists_version_of_hexVersion? first
  obtain ⟨n, right, rfl⟩ := exists_version_of_hexVersion? second
  refine ⟨m, n, ⟨left, isNormal_versionText left.lt⟩, ⟨right, isNormal_versionText right.lt⟩, ?_⟩
  intro a b c d former latter
  obtain ⟨rfl, major, minor⟩ := left.eq_of_isMajorMinor former
  obtain ⟨rfl, major', minor'⟩ := right.eq_of_isMajorMinor latter
  exact ⟨pair_lt major minor, pair_lt major' minor', pair_le_pair_iff minor minor'⟩

/-- The tenth minor version comes after the ninth, though its text comes before. -/
theorem hexVersion?_normal_ordered_tenth :
    hexVersion? "2.9" = some "0x00020009" ∧ hexVersion? " 2.10" = some "0x0002000a" ∧
    IsMajorMinor (trim "2.9").toList 2 9 ∧ IsMajorMinor (trim " 2.10").toList 2 10 ∧
    ∃ m n, (IsVersion (trim "2.9").toList m ∧ IsNormal "0x00020009" m) ∧
      (IsVersion (trim " 2.10").toList n ∧ IsNormal "0x0002000a" n) ∧
        m < UInt32.size ∧ n < UInt32.size ∧ (m ≤ n ↔ toLex (2, 9) ≤ toLex (2, 10)) := by
  have ninth : hexVersion? "2.9" = some "0x00020009" := by decide
  have tenth : hexVersion? " 2.10" = some "0x0002000a" := by decide
  have numeral (n : Nat) : Signed 10 (Nat.toDigits 10 n) n := .plain (numeral_toDigits (by decide) n)
  have former : IsMajorMinor (trim "2.9").toList 2 9 := .point (numeral 2) (numeral 9)
  have latter : IsMajorMinor (trim " 2.10").toList 2 10 := .point (numeral 2) (numeral 10)
  obtain ⟨m, n, left, right, ordered⟩ := hexVersion?_normal_ordered ninth tenth
  exact ⟨ninth, tenth, former, latter, m, n, left, right, ordered 2 9 2 10 former latter⟩

theorem hexVersion?_nineDigits :
    hexVersion? "0x123456789" = some "0x123456789" ∧
      ¬ ∃ digits, "0x123456789".toList = '0' :: 'x' :: digits ∧ digits.length = 8 := by
  refine ⟨by decide, ?_⟩
  rintro ⟨digits, same, short⟩
  have long : "0x123456789".toList.length = 11 := by decide
  rw [same, List.length_cons, List.length_cons, short] at long
  cases long

end Versions

end UefiBuild.Text
