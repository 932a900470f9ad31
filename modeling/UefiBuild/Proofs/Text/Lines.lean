import UefiBuild.Proofs.Text.Words

namespace UefiBuild.Text

theorem cutFirst?_append {mark : Char} {a : List Char} (absent : mark ∉ a) (b : List Char) :
    cutFirst? mark (a ++ mark :: b) = some (a, b) := by
  induction a with
  | nil => simp [cutFirst?]
  | cons c rest ih =>
    rw [List.mem_cons, not_or] at absent
    rw [List.cons_append, cutFirst?, if_neg (Ne.symm absent.1), ih absent.2]
    rfl

theorem cutFirst?_of_absent {mark : Char} {a : List Char} (absent : mark ∉ a) : cutFirst? mark a = none := by
  induction a with
  | nil => rfl
  | cons c rest ih =>
    rw [List.mem_cons, not_or] at absent
    rw [cutFirst?, if_neg (Ne.symm absent.1), ih absent.2]
    rfl

theorem eq_of_cutFirst? {mark : Char} {cs a b : List Char} (found : cutFirst? mark cs = some (a, b)) :
    cs = a ++ mark :: b := by
  induction cs generalizing a with
  | nil => cases found
  | cons c rest ih =>
    rw [cutFirst?] at found
    split at found
    · rename_i here
      obtain ⟨rfl, rfl⟩ := Prod.mk.inj (Option.some.inj found)
      rw [here, List.nil_append]
    · obtain ⟨⟨front, back⟩, later, same⟩ := Option.map_eq_some_iff.1 found
      obtain ⟨rfl, rfl⟩ := Prod.mk.inj same
      rw [List.cons_append, ← ih later]

theorem lines_append_break (a b : String) : lines (a ++ "\n" ++ b) = lines a ++ lines b := by
  have letters : (a ++ "\n" ++ b).toList = a.toList ++ '\n' :: b.toList := by simp
  simp only [lines, split, splitAt]
  rw [letters, pieces_append_cons (by decide), List.map_append]

theorem lines_of_unbroken {s : String} (unbroken : '\n' ∉ s.toList) : lines s = [s] := by
  have none : ∀ c ∈ s.toList, (c == '\n') = false := fun c member => by
    simpa using ne_of_mem_of_not_mem member unbroken
  simp only [lines, split, splitAt]
  rw [pieces_of_none none, List.map_singleton, String.ofList_toList]

theorem join_cons (first : String) (rest : List String) : join "" (first :: rest) = first ++ join "" rest := by
  rw [← String.toList_inj, join, join, String.toList_append, String.toList_intercalate,
    String.toList_intercalate]
  cases rest with
  | nil => simp
  | cons second others => simp [List.intercalate_cons_cons]

theorem lines_join_breaks_append {texts : List String} (unbroken : ∀ text ∈ texts, '\n' ∉ text.toList)
    (rest : String) : lines (join "" (texts.map (· ++ "\n")) ++ rest) = texts ++ lines rest := by
  induction texts with
  | nil =>
    have empty : join "" (([] : List String).map (· ++ "\n")) ++ rest = rest := String.empty_append
    rw [empty, List.nil_append]
  | cons first others ih =>
    rw [List.map_cons, join_cons, String.append_assoc, lines_append_break,
      lines_of_unbroken (unbroken first (by simp)),
      ih fun text member => unbroken text (List.mem_cons_of_mem first member)]
    rfl

end UefiBuild.Text
