import UefiBuild.Proofs.Text.Words
import UefiBuild.Text.ValueList

namespace UefiBuild.Text

def Quoting.after (quoting : Quoting) (cs : List Char) : Quoting := cs.foldl next quoting

def isShielded (separator : Char) : Quoting → List Char → Bool
  | _, [] => true
  | quoting, c :: rest =>
    (quoting ≠ .outside || c ≠ separator) && isShielded separator (quoting.next c) rest

section Pieces

variable {separator c : Char} {quoting : Quoting} {cs a b : List Char}

theorem isShielded_cons_iff :
    isShielded separator quoting (c :: cs) ↔
      (quoting = .outside → c ≠ separator) ∧ isShielded separator (quoting.next c) cs := by
  rw [isShielded, Bool.and_eq_true, Bool.or_eq_true, decide_eq_true_iff, decide_eq_true_iff,
    imp_iff_not_or]

theorem isShielded_append_iff :
    isShielded separator quoting (a ++ b) ↔
      isShielded separator quoting a ∧ isShielded separator (quoting.after a) b := by
  induction a generalizing quoting with
  | nil => simp [isShielded, Quoting.after]
  | cons c rest ih =>
    rw [List.cons_append, isShielded_cons_iff, isShielded_cons_iff, ih, and_assoc]
    rfl

theorem unquotedPieces_of_isShielded (shielded : isShielded separator quoting cs) :
    unquotedPieces separator quoting cs = [cs] := by
  induction cs generalizing quoting with
  | nil => rfl
  | cons c rest ih =>
    obtain ⟨here, later⟩ := isShielded_cons_iff.1 shielded
    rw [unquotedPieces, if_neg fun cut => here cut.1 cut.2.2, ih later]

theorem unquotedPieces_append_cons (unquoted : separator ≠ '"')
    (shielded : isShielded separator quoting a) (closed : quoting.after a = .outside) (b : List Char) :
    unquotedPieces separator quoting (a ++ separator :: b) =
      a :: unquotedPieces separator .outside b := by
  induction a generalizing quoting with
  | nil =>
    obtain rfl : quoting = .outside := closed
    rw [List.nil_append, unquotedPieces, if_pos ⟨rfl, unquoted, rfl⟩]
  | cons c rest ih =>
    obtain ⟨here, later⟩ := isShielded_cons_iff.1 shielded
    rw [List.cons_append, unquotedPieces, if_neg fun cut => here cut.1 cut.2.2, ih later closed]

theorem after_of_unquoted (unquoted : ∀ c ∈ cs, c ≠ '"') : Quoting.outside.after cs = .outside := by
  induction cs with
  | nil => rfl
  | cons c rest ih =>
    have next : Quoting.outside.next c = .outside := if_neg (unquoted c (by simp))
    rw [Quoting.after, List.foldl_cons, next]
    exact ih fun d member => unquoted d (List.mem_cons_of_mem c member)

theorem isShielded_of_absent (absent : separator ∉ cs) : isShielded separator quoting cs := by
  induction cs generalizing quoting with
  | nil => rfl
  | cons c rest ih =>
    rw [List.mem_cons, not_or] at absent
    exact isShielded_cons_iff.2 ⟨fun _ => Ne.symm absent.1, ih absent.2⟩

theorem unquotedPieces_plain_append_cons (unquoted : separator ≠ '"')
    (plain : ∀ c ∈ a, c ≠ separator ∧ c ≠ '"') (b : List Char) :
    unquotedPieces separator .outside (a ++ separator :: b) =
      a :: unquotedPieces separator .outside b :=
  unquotedPieces_append_cons unquoted (isShielded_of_absent fun member => (plain _ member).1 rfl)
    (after_of_unquoted fun c member => (plain c member).2) b

end Pieces

section Trim

variable {separator : Char} {cs : List Char}

theorem isShielded_trimStart (shielded : isShielded separator .outside cs) :
    isShielded separator .outside (trimStart cs) := by
  induction cs with
  | nil => rfl
  | cons c rest ih =>
    rw [trimStart, List.dropWhile_cons]
    split
    · rename_i blank
      have next : Quoting.outside.next c = .outside := if_neg fun quote => by
        rw [quote] at blank
        cases blank
      exact ih (next ▸ (isShielded_cons_iff.1 shielded).2)
    · exact shielded

theorem isShielded_trimEnd {quoting : Quoting} (shielded : isShielded separator quoting cs) :
    isShielded separator quoting (trimEnd cs) := by
  obtain ⟨blanks, -, same⟩ := exists_trimEnd_append cs
  rw [← same] at shielded
  exact (isShielded_append_iff.1 shielded).1

theorem isShielded_trimBoth (shielded : isShielded separator .outside cs) :
    isShielded separator .outside (trimBoth cs) := isShielded_trimEnd (isShielded_trimStart shielded)

end Trim

end UefiBuild.Text
