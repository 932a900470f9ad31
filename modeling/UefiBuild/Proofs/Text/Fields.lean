import UefiBuild.Proofs.Text.Words

namespace UefiBuild.Text

variable {separator : Char}

theorem intercalate_pieces (separator : Char) (cs : List Char) :
    [separator].intercalate (pieces (· == separator) cs) = cs := by
  induction cs with
  | nil => rfl
  | cons c rest ih =>
    cases cut : pieces (· == separator) rest with
    | nil => exact absurd cut (pieces_ne_nil _ rest)
    | cons piece others =>
      rw [cut] at ih
      rw [pieces, cut]
      by_cases same : c = separator
      · rw [if_pos (by simpa using same), List.intercalate_cons_cons, ih, same]
        rfl
      · rw [if_neg (by simpa using same)]
        cases others with
        | nil => simpa using ih
        | cons next more => simpa [List.intercalate_cons_cons] using ih

theorem pieces_intercalate {cut : Char → Bool} (cuts : cut separator = true) {parts : List (List Char)}
    (filled : parts ≠ []) (whole : ∀ part ∈ parts, ∀ c ∈ part, cut c = false) :
    pieces cut ([separator].intercalate parts) = parts := by
  induction parts with
  | nil => exact absurd rfl filled
  | cons first others ih =>
    have alone := pieces_of_none (whole first (by simp))
    cases others with
    | nil => rw [List.intercalate_singleton, alone]
    | cons second rest =>
      rw [List.intercalate_cons_cons, List.append_assoc, List.singleton_append, pieces_append_cons cuts,
        alone, ih (by simp) fun part member => whole part (List.mem_cons_of_mem first member)]
      rfl

theorem toList_join_singleton (separator : Char) (parts : List String) :
    (join (String.singleton separator) parts).toList =
      [separator].intercalate (parts.map String.toList) := by
  rw [join, String.toList_intercalate, String.toList_singleton]

theorem splitAt_join (separator : Char) {cut : Char → Bool} (cuts : cut separator = true) {parts : List String}
    (filled : parts ≠ []) (whole : ∀ part ∈ parts, ∀ c ∈ part.toList, cut c = false) :
    splitAt cut (join (String.singleton separator) parts) = parts := by
  rw [splitAt, toList_join_singleton, pieces_intercalate cuts (by simpa using filled)
    (List.forall_mem_map.2 whole)]
  simp [Function.comp_def]

theorem mem_intercalate {parts : List (List Char)} {c : Char}
    (member : c ∈ [separator].intercalate parts) : c = separator ∨ ∃ part ∈ parts, c ∈ part := by
  induction parts with
  | nil => cases member
  | cons first others ih =>
    cases others with
    | nil => exact .inr ⟨first, by simp, by simpa using member⟩
    | cons second rest =>
      rw [List.intercalate_cons_cons, List.append_assoc, List.mem_append, List.singleton_append,
        List.mem_cons] at member
      rcases member with here | mark | later
      · exact .inr ⟨first, by simp, here⟩
      · exact .inl mark
      · exact (ih later).imp_right fun ⟨part, listed, within⟩ => ⟨part, List.mem_cons_of_mem first listed, within⟩

theorem pieces_congr {cut other : Char → Bool} {cs : List Char} (same : ∀ c ∈ cs, cut c = other c) :
    pieces cut cs = pieces other cs := by
  induction cs with
  | nil => rfl
  | cons c rest ih =>
    rw [pieces, pieces, same c (by simp), ih fun d member => same d (List.mem_cons_of_mem c member)]

theorem length_pieces (cut : Char → Bool) (cs : List Char) : (pieces cut cs).length = cs.countP cut + 1 := by
  induction cs with
  | nil => rfl
  | cons c rest ih =>
    by_cases cuts : cut c = true
    · rw [pieces, if_pos cuts, List.length_cons, ih, List.countP_cons_of_pos cuts]
    · rw [pieces, if_neg cuts, List.countP_cons_of_neg cuts]
      cases here : pieces cut rest with
      | nil => exact absurd here (pieces_ne_nil cut rest)
      | cons piece others =>
        rw [here] at ih
        exact ih

theorem split_inj {s t : String} (same : split separator s = split separator t) : s = t := by
  have pieces : pieces (· == separator) s.toList = pieces (· == separator) t.toList :=
    (List.map_inj_right fun _ _ => String.ofList_inj.1).1 same
  rw [← String.toList_inj, ← intercalate_pieces separator s.toList, pieces, intercalate_pieces]

theorem join_space_cons (a b : String) (rest : List String) :
    join " " ((a ++ " " ++ b) :: rest) = join " " (a :: b :: rest) := rfl

end UefiBuild.Text
