import Mathlib.Data.List.DropRight
import Mathlib.Data.List.TakeWhile
import UefiBuild.Text.Blank

namespace UefiBuild.Text

variable {a b cs blanks : List Char} {c : Char}

theorem toList_trim (s : String) : (trim s).toList = trimBoth s.toList := String.toList_ofList

theorem trim_eq_self_iff {s : String} : trim s = s ↔ trimBoth s.toList = s.toList := by
  rw [← String.toList_inj, toList_trim]

theorem trimStart_cons (solid : isBlank c = false) (a : List Char) : trimStart (c :: a) = c :: a := by
  simp [trimStart, solid]

theorem trimEnd_append (solid : isBlank c = false) (a : List Char)
    (blank : ∀ c ∈ blanks, isBlank c = true) : trimEnd (a ++ c :: blanks) = a ++ [c] := by
  have dropped : blanks.reverse.dropWhile isBlank = [] :=
    List.dropWhile_eq_nil_iff.2 fun c member => blank c (List.mem_reverse.1 member)
  simp [trimEnd, List.dropWhile_append, dropped, solid]

theorem trimEnd_append_cons (solid : isBlank c = false) (a b : List Char) :
    trimEnd (a ++ c :: b) = a ++ c :: trimEnd b := by
  simp only [trimEnd, List.reverse_append, List.reverse_cons, List.append_assoc, List.singleton_append,
    List.dropWhile_append]
  split
  · rename_i blank
    simp [List.isEmpty_iff.1 blank, solid]
  · simp

theorem exists_trimEnd_append (cs : List Char) :
    ∃ blanks, (∀ c ∈ blanks, isBlank c = true) ∧ trimEnd cs ++ blanks = cs := by
  refine ⟨(cs.reverse.takeWhile isBlank).reverse, fun c member => ?_, ?_⟩
  · exact List.mem_takeWhile_imp (List.mem_reverse.1 member)
  · rw [trimEnd, ← List.reverse_append, List.takeWhile_append_dropWhile, List.reverse_reverse]

theorem exists_blanks (cs : List Char) : ∃ before after, (∀ c ∈ before, isBlank c = true) ∧
    (∀ c ∈ after, isBlank c = true) ∧ before ++ trimBoth cs ++ after = cs := by
  obtain ⟨after, blank, same⟩ := exists_trimEnd_append (trimStart cs)
  refine ⟨cs.takeWhile isBlank, after, fun c => List.mem_takeWhile_imp, blank, ?_⟩
  rw [trimBoth, List.append_assoc, same]
  exact List.takeWhile_append_dropWhile

theorem trimBoth_sublist (cs : List Char) : (trimBoth cs).Sublist cs := by
  obtain ⟨blanks, -, same⟩ := exists_trimEnd_append (trimStart cs)
  have front := List.sublist_append_left (trimEnd (trimStart cs)) blanks
  rw [same] at front
  exact front.trans (List.dropWhile_sublist _)

theorem countP_trimBoth {p : Char → Bool} (solid : ∀ c, isBlank c = true → p c = false) (cs : List Char) :
    (trimBoth cs).countP p = cs.countP p := by
  obtain ⟨before, after, front, back, same⟩ := exists_blanks cs
  have outside (blanks : List Char) (blank : ∀ c ∈ blanks, isBlank c = true) : blanks.countP p = 0 :=
    List.countP_eq_zero.2 fun c member => by simp [solid c (blank c member)]
  conv => rhs; rw [← same, List.countP_append, List.countP_append, outside before front, outside after back]
  omega

theorem trimEnd_trimEnd (cs : List Char) : trimEnd (trimEnd cs) = trimEnd cs :=
  List.rdropWhile_idempotent isBlank cs

theorem trimBoth_trimBoth (cs : List Char) : trimBoth (trimBoth cs) = trimBoth cs := by
  have front : trimStart (trimEnd (trimStart cs)) = trimEnd (trimStart cs) := by
    cases kept : trimStart cs with
    | nil => rfl
    | cons c rest =>
      have solid : isBlank c = false := by
        have first := List.head?_dropWhile_not isBlank cs
        rw [← trimStart, kept] at first
        simpa using first
      rw [← List.nil_append (c :: rest), trimEnd_append_cons solid, List.nil_append, trimStart_cons solid]
  rw [trimBoth, trimBoth, front, trimEnd_trimEnd]

theorem trimBoth_of_solid (solid : ∀ c ∈ cs, isBlank c = false) : trimBoth cs = cs := by
  have still (l : List Char) (solid : ∀ c ∈ l, isBlank c = false) : l.dropWhile isBlank = l := by
    cases l with
    | nil => rfl
    | cons c rest => rw [List.dropWhile_cons_of_neg (by simp [solid c])]
  have reversed : ∀ c ∈ cs.reverse, isBlank c = false := fun c member => solid c (by simpa using member)
  rw [trimBoth, trimStart, trimEnd, still cs solid, still _ reversed, List.reverse_reverse]

theorem trimStart_eq_nil (blank : ∀ c ∈ cs, isBlank c = true) : trimStart cs = [] :=
  List.dropWhile_eq_nil_iff.2 blank

theorem trimStart_blanks_append (blank : ∀ c ∈ blanks, isBlank c = true) (cs : List Char) :
    trimStart (blanks ++ cs) = trimStart cs := by
  rw [trimStart, List.dropWhile_append, ← trimStart, trimStart_eq_nil blank]
  rfl

theorem trimEnd_append_blanks (cs : List Char) (blank : ∀ c ∈ blanks, isBlank c = true) :
    trimEnd (cs ++ blanks) = trimEnd cs := by
  have front := trimStart_blanks_append (fun c member => blank c (List.mem_reverse.1 member)) cs.reverse
  rw [trimEnd, List.reverse_append]
  exact congrArg List.reverse front

theorem trimBoth_blanks_append (blank : ∀ c ∈ blanks, isBlank c = true) (cs : List Char) :
    trimBoth (blanks ++ cs) = trimBoth cs := by
  rw [trimBoth, trimStart_blanks_append blank, trimBoth]

theorem trimBoth_append_blanks (cs : List Char) (blank : ∀ c ∈ blanks, isBlank c = true) :
    trimBoth (cs ++ blanks) = trimBoth cs := by
  rw [trimBoth, trimStart, List.dropWhile_append]
  split
  · rename_i empty
    have none : trimStart cs = [] := List.isEmpty_iff.1 empty
    rw [← trimStart, trimStart_eq_nil blank, trimBoth, none]
  · exact trimEnd_append_blanks _ blank

theorem trimBoth_eq_nil (blank : ∀ c ∈ cs, isBlank c = true) : trimBoth cs = [] :=
  trimBoth_append_blanks [] blank

theorem trimBoth_append_cons (solid : isBlank c = false) (a b : List Char) :
    trimBoth (a ++ c :: b) = trimStart a ++ c :: trimEnd b := by
  have front : trimStart (a ++ c :: b) = trimStart a ++ c :: b := by
    rw [trimStart, List.dropWhile_append]
    split
    · rename_i empty
      have none : trimStart a = [] := List.isEmpty_iff.1 empty
      rw [none]
      exact trimStart_cons solid b
    · rfl
  rw [trimBoth, front, trimEnd_append_cons solid]

theorem trimBoth_trimStart (cs : List Char) : trimBoth (trimStart cs) = trimBoth cs := by
  have blank : ∀ c ∈ cs.takeWhile isBlank, isBlank c = true := fun c => List.mem_takeWhile_imp
  conv => rhs; rw [← List.takeWhile_append_dropWhile (p := isBlank) (l := cs)]
  exact (trimBoth_blanks_append blank _).symm

theorem trimBoth_trimEnd (cs : List Char) : trimBoth (trimEnd cs) = trimBoth cs := by
  obtain ⟨blanks, blank, same⟩ := exists_trimEnd_append cs
  rw [← trimBoth_append_blanks _ blank, same]

end UefiBuild.Text
