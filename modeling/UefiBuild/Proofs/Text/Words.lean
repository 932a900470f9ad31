import Mathlib.Data.List.Infix
import UefiBuild.Proofs.Text.Trim
import UefiBuild.Text.Split

namespace UefiBuild.Text

section Parts

variable {start finish part cs rest a b : List Char} {separator : Char}

theorem dropStart?_append (start rest : List Char) : dropStart? start (start ++ rest) = some rest := by
  induction start with
  | nil => rfl
  | cons c start ih => simp [dropStart?, ih]

theorem afterStart?_append (start rest : String) : afterStart? start (start ++ rest) = some rest := by
  simp [afterStart?, dropStart?_append]

theorem dropStart?_eq_some_iff : dropStart? start cs = some rest ↔ cs = start ++ rest := by
  constructor
  · intro found
    induction start generalizing cs with
    | nil => exact Option.some.inj found
    | cons c start ih =>
      cases cs with
      | nil => cases found
      | cons d cs =>
        rw [dropStart?] at found
        split at found
        · rename_i same
          rw [same, ih found, List.cons_append]
        · cases found
  · rintro rfl
    exact dropStart?_append start rest

theorem beforeEnd?_append (s finish : String) : beforeEnd? finish (s ++ finish) = some s := by
  simp [beforeEnd?, dropStart?_append]

theorem beforeEnd?_eq_some_iff {finish s short : String} :
    beforeEnd? finish s = some short ↔ s = short ++ finish := by
  constructor
  · intro found
    obtain ⟨back, dropped, rfl⟩ := Option.map_eq_some_iff.1 found
    have letters := congrArg List.reverse (dropStart?_eq_some_iff.1 dropped)
    rw [List.reverse_reverse, List.reverse_append, List.reverse_reverse] at letters
    rw [← String.toList_inj, letters, String.toList_append, String.toList_ofList]
  · rintro rfl
    exact beforeEnd?_append short finish

theorem beforeEnd?_eq_none_iff {finish s : String} :
    beforeEnd? finish s = none ↔ ¬ finish.toList <:+ s.toList := by
  rw [Option.eq_none_iff_forall_ne_some, ← not_exists, not_iff_not]
  constructor
  · rintro ⟨short, found⟩
    exact ⟨short.toList, by rw [beforeEnd?_eq_some_iff.1 found, String.toList_append]⟩
  · rintro ⟨short, same⟩
    refine ⟨String.ofList short, beforeEnd?_eq_some_iff.2 ?_⟩
    rw [← String.toList_inj, String.toList_append, String.toList_ofList, same]

theorem endsWith_eq_isSome (finish s : String) : endsWith finish s = (beforeEnd? finish s).isSome := by
  simp [endsWith, beforeEnd?]

theorem isSome_dropStart?_iff : (dropStart? start cs).isSome = true ↔ start <+: cs := by
  rw [Option.isSome_iff_exists]
  constructor
  · rintro ⟨rest, found⟩
    exact ⟨rest, (dropStart?_eq_some_iff.1 found).symm⟩
  · rintro ⟨rest, rfl⟩
    exact ⟨rest, dropStart?_append start rest⟩

theorem occursIn_iff : occursIn part cs = true ↔ part <:+: cs := by
  induction cs with
  | nil => simp [occursIn]
  | cons c rest ih => rw [occursIn, Bool.or_eq_true, isSome_dropStart?_iff, ih, List.infix_cons_iff]

theorem infix_append_cons_iff (filled : part ≠ []) (absent : separator ∉ part) :
    part <:+: a ++ separator :: b ↔ part <:+: a ∨ part <:+: b := by
  constructor
  · rintro ⟨before, after, same⟩
    rw [List.append_assoc] at same
    rcases List.append_eq_append_iff.1 same with ⟨left, rfl, right⟩ | ⟨left, rfl, right⟩
    · rcases List.append_eq_append_iff.1 right with ⟨more, rfl, -⟩ | ⟨more, rfl, cut⟩
      · exact .inl ⟨before, more, by simp⟩
      · cases more with
        | nil => exact .inl ⟨before, [], by simp⟩
        | cons first others =>
          obtain ⟨rfl, -⟩ := List.cons.inj cut
          simp at absent
    · cases left with
      | nil =>
        cases part with
        | nil => exact absurd rfl filled
        | cons first others =>
          obtain ⟨rfl, -⟩ := List.cons.inj right
          simp at absent
      | cons first others =>
        obtain ⟨-, rfl⟩ := List.cons.inj right
        exact .inr ⟨others, after, by simp⟩
  · rintro (⟨before, after, rfl⟩ | ⟨before, after, rfl⟩)
    · exact ⟨before, after ++ separator :: b, by simp⟩
    · exact ⟨a ++ separator :: before, after, by simp⟩

theorem occursIn_append_cons (filled : part ≠ []) (absent : separator ∉ part) (a b : List Char) :
    occursIn part (a ++ separator :: b) = (occursIn part a || occursIn part b) := by
  rw [Bool.eq_iff_iff, Bool.or_eq_true, occursIn_iff, occursIn_iff, occursIn_iff]
  exact infix_append_cons_iff filled absent

theorem occursIn_append_blanks (filled : part ≠ []) (solid : ∀ c ∈ part, isBlank c = false)
    (blank : ∀ c ∈ rest, isBlank c = true) : occursIn part (a ++ rest) = occursIn part a := by
  induction rest generalizing a with
  | nil => rw [List.append_nil]
  | cons first others ih =>
    have absent : first ∉ part := fun member => by
      have both := solid first member
      rw [blank first (by simp)] at both
      cases both
    have none : occursIn part [] = false := by simpa [occursIn] using filled
    have later := ih (a := []) fun c member => blank c (List.mem_cons_of_mem first member)
    rw [List.nil_append, none] at later
    rw [occursIn_append_cons filled absent, later, Bool.or_false]

end Parts

section Runs

variable {cs a b : List Char} {c : Char}

def runs (cs : List Char) : List (List Char) := (pieces isBlank cs).filter (· ≠ [])

theorem words_eq (s : String) : words s = (runs s.toList).map String.ofList := by
  rw [words, splitAt, runs, List.filter_map]
  congr 1
  refine List.filter_congr fun piece _ => ?_
  simp

theorem pieces_append_cons {cut : Char → Bool} (cuts : cut c = true) (a b : List Char) :
    pieces cut (a ++ c :: b) = pieces cut a ++ pieces cut b := by
  induction a with
  | nil => simp [pieces, cuts]
  | cons first rest ih =>
    rw [List.cons_append, pieces, pieces, ih]
    split
    · rfl
    · cases here : pieces cut rest with
      | nil => exact absurd here (pieces_ne_nil cut rest)
      | cons piece others => rfl

theorem pieces_of_none {cut : Char → Bool} (none : ∀ c ∈ cs, cut c = false) : pieces cut cs = [cs] := by
  induction cs with
  | nil => rfl
  | cons first rest ih =>
    rw [pieces, none first (by simp), ih fun c member => none c (List.mem_cons_of_mem first member)]
    rfl

theorem runs_append_cons (blank : isBlank c = true) (a b : List Char) :
    runs (a ++ c :: b) = runs a ++ runs b := by
  rw [runs, pieces_append_cons blank, List.filter_append]
  rfl

theorem runs_of_solid (filled : cs ≠ []) (solid : ∀ c ∈ cs, isBlank c = false) : runs cs = [cs] := by
  rw [runs, pieces_of_none solid]
  simp [filled]

theorem runs_append_blanks (a : List Char) {blanks : List Char} (blank : ∀ c ∈ blanks, isBlank c = true) :
    runs (a ++ blanks) = runs a := by
  induction blanks generalizing a with
  | nil => rw [List.append_nil]
  | cons first rest ih =>
    have none : runs rest = [] := by
      simpa [runs, pieces] using ih [] fun c member => blank c (List.mem_cons_of_mem first member)
    rw [runs_append_cons (blank first (by simp)), none, List.append_nil]

theorem flatten_runs (cs : List Char) : (runs cs).flatten = cs.filter (!isBlank ·) := by
  have joined : ∀ l : List (List Char), (l.filter (· ≠ [])).flatten = l.flatten := by
    intro l
    induction l with
    | nil => rfl
    | cons first rest ih =>
      cases first with
      | nil => simpa using ih
      | cons c others => simpa using ih
  rw [runs, joined]
  induction cs with
  | nil => rfl
  | cons first rest ih =>
    rw [pieces]
    cases blank : isBlank first with
    | true => simpa [blank] using ih
    | false =>
      cases here : pieces isBlank rest with
      | nil => exact absurd here (pieces_ne_nil _ rest)
      | cons piece others =>
        rw [here] at ih
        simpa [blank] using ih

theorem cut_of_mem_pieces {cut : Char → Bool} {piece : List Char} (member : piece ∈ pieces cut cs) :
    ∀ c ∈ piece, cut c = false := by
  induction cs generalizing piece with
  | nil =>
    obtain rfl := List.mem_singleton.1 member
    exact nofun
  | cons first rest ih =>
    rw [pieces] at member
    split at member
    · rcases List.mem_cons.1 member with rfl | later
      · exact nofun
      · exact ih later
    · rename_i kept
      have solid : cut first = false := by simpa using kept
      cases here : pieces cut rest with
      | nil => exact absurd here (pieces_ne_nil cut rest)
      | cons piece others =>
        rw [here] at member ih
        rcases List.mem_cons.1 member with rfl | later
        · exact List.forall_mem_cons.2 ⟨solid, ih (by simp)⟩
        · exact ih (List.mem_cons_of_mem _ later)

structure IsSolid (word : String) : Prop where
  filled : word ≠ ""
  solid : ∀ c ∈ word.toList, isBlank c = false

theorem IsSolid.toList_ne_nil {word : String} (solid : IsSolid word) : word.toList ≠ [] :=
  fun empty => solid.filled (String.toList_eq_nil_iff.1 empty)

theorem isSolid_of_mem_words {text word : String} (member : word ∈ words text) : IsSolid word := by
  obtain ⟨listed, filled⟩ := List.mem_filter.1 member
  obtain ⟨piece, cut, rfl⟩ := List.mem_map.1 listed
  refine ⟨by simpa using filled, fun c within => ?_⟩
  rw [String.toList_ofList] at within
  exact cut_of_mem_pieces cut c within

end Runs

end UefiBuild.Text
