import UefiBuild.Proofs.Depex.Wording

namespace UefiBuild.Module

open Text (isBlank IsSolid)

variable {words : List String} {word : String}

section Count

def letterCount (words : List String) : Nat := (words.flatMap String.toList).length

@[simp] theorem letterCount_nil : letterCount [] = 0 := rfl

theorem letterCount_append (a b : List String) : letterCount (a ++ b) = letterCount a + letterCount b := by
  rw [letterCount, List.flatMap_append, List.length_append, letterCount, letterCount]

theorem letterCount_cons (word : String) (rest : List String) :
    letterCount (word :: rest) = word.length + letterCount rest := by
  rw [letterCount, List.flatMap_cons, List.length_append, String.length_toList, letterCount]

theorem letterCount_writtenWords (solid : ∀ c ∈ word.toList, isBlank c = false) :
    letterCount (writtenWords word) = word.length := by
  have kept : word.toList.filter (!isBlank ·) = word.toList :=
    List.filter_eq_self.2 fun c member => by simp [solid c member]
  have letters : (writtenWords word).flatMap String.toList = (scan word.toList).flatten := by
    simp [writtenWords_eq, List.flatMap_def]
  rw [letterCount, letters, flatten_scan, kept, String.length_toList]

theorem letterCount_flatMap_writtenWords (solid : ∀ w ∈ words, ∀ c ∈ w.toList, isBlank c = false) :
    letterCount (words.flatMap writtenWords) = letterCount words := by
  induction words with
  | nil => rfl
  | cons first rest ih =>
    obtain ⟨firstSolid, others⟩ := List.forall_mem_cons.1 solid
    rw [List.flatMap_cons, letterCount_append, letterCount_writtenWords firstSolid, ih others,
      letterCount_cons]

theorem letterCount_joinWords (tokens expression : List String) :
    letterCount (joinWords tokens expression) =
      letterCount tokens + (if tokens.isEmpty then 0 else 3) + (2 + letterCount expression) := by
  have opened : "(".length = 1 := by decide
  have closed : letterCount [")"] = 1 := by decide
  rw [joinWords, letterCount_append, letterCount_append, letterCount_append, letterCount_cons, opened,
    closed]
  split
  · rw [letterCount_nil]
    omega
  · have conjunction : letterCount ["AND"] = 3 := by decide
    rw [conjunction]
    omega

theorem letterCount_foldl_joinWords {tokens : List String} (filled : tokens ≠ [])
    (expressions : List (List String)) :
    letterCount (expressions.foldl joinWords tokens) =
      letterCount tokens + 5 * expressions.length + letterCount expressions.flatten := by
  induction expressions generalizing tokens with
  | nil => rfl
  | cons first rest ih =>
    have joined : joinWords tokens first ≠ [] := by simp [joinWords]
    rw [List.foldl_cons, ih joined, letterCount_joinWords, if_neg (by simpa using filled),
      List.flatten_cons, letterCount_append, List.length_cons]
    omega

theorem letterCount_joined {expressions : List (List String)} (filled : expressions ≠ []) :
    letterCount (expressions.foldl joinWords []) + 3 =
      5 * expressions.length + letterCount expressions.flatten := by
  -- The first expression comes without an `AND`, all others with one.
  obtain ⟨first, rest, rfl⟩ := List.exists_cons_of_ne_nil filled
  have joined : joinWords [] first ≠ [] := by simp [joinWords]
  rw [List.foldl_cons, letterCount_foldl_joinWords joined, letterCount_joinWords, letterCount_nil,
    List.isEmpty_nil, if_pos rfl, List.flatten_cons, letterCount_append, List.length_cons]
  omega

end Count

section Clip

def plainWords (expression : List DepexToken) : List String :=
  withoutEnd (expression.map DepexToken.written)

def EndsPlainly (words : List String) : Prop :=
  ∀ last ∈ words.getLast?, Text.endsWith "END" last = true → last = "END"

instance : DecidablePred EndsPlainly := fun words =>
  inferInstanceAs (Decidable (∀ last ∈ words.getLast?, Text.endsWith "END" last = true → last = "END"))

theorem clipped_cases (words : List String) :
    (EndsPlainly words ∧ (clipped words = withoutEnd words ∨ clipped words = withoutEnd words ++ [""])) ∨
      (¬ EndsPlainly words ∧ letterCount (clipped words) + 3 = letterCount (withoutEnd words)) := by
  rcases List.eq_nil_or_concat' words with rfl | ⟨front, last, rfl⟩
  · exact .inl ⟨nofun, .inl rfl⟩
  · have lastWord : (front ++ [last]).getLast? = some last := by simp
    rw [withoutEnd_concat, clipped_concat]
    cases found : Text.beforeEnd? "END" last with
    | none =>
      have other : last ≠ "END" := by
        rintro rfl
        cases found
      refine .inl ⟨fun word here ends => ?_, .inl ?_⟩
      · obtain rfl := Option.some.inj (lastWord.symm.trans here)
        rw [Text.endsWith_eq_isSome, found] at ends
        cases ends
      · rw [if_neg other]
        rfl
    | some short =>
      obtain rfl := Text.beforeEnd?_eq_some_iff.1 found
      -- The last word is `END` itself, and an empty one is left of it, or it is a longer one.
      by_cases empty : short = ""
      · subst empty
        refine .inl ⟨fun word here _ => ?_, .inr rfl⟩
        exact (Option.some.inj (lastWord.symm.trans here)).symm
      · have longer : short ++ "END" ≠ "END" := fun same => empty (by simpa using same)
        refine .inr ⟨fun plainly => longer (plainly _ lastWord ?_), ?_⟩
        · rw [Text.endsWith_eq_isSome, found]
          rfl
        · have three : "END".length = 3 := by decide
          rw [if_neg longer, letterCount_append, letterCount_append, letterCount_cons, letterCount_cons,
            Option.getD_some, String.length_append, three]
          omega

theorem solid_of_mem_clipped (solid : ∀ w ∈ words, ∀ c ∈ w.toList, isBlank c = false) :
    ∀ w ∈ clipped words, ∀ c ∈ w.toList, isBlank c = false := by
  rcases List.eq_nil_or_concat' words with rfl | ⟨front, last, rfl⟩
  · exact nofun
  · rw [clipped_concat]
    intro w member c within
    rcases List.mem_append.1 member with before | there
    · exact solid w (List.mem_append_left _ before) c within
    · obtain rfl := List.mem_singleton.1 there
      refine solid last (by simp) c ?_
      cases found : Text.beforeEnd? "END" last with
      | none => simpa [found] using within
      | some short =>
        rw [found] at within
        rw [Text.beforeEnd?_eq_some_iff.1 found, String.toList_append]
        exact List.mem_append_left _ within

theorem mem_clipped (member : word ∈ words) (unfinished : Text.endsWith "END" word = false) :
    word ∈ clipped words := by
  rcases List.eq_nil_or_concat' words with rfl | ⟨front, last, rfl⟩
  · cases member
  · rw [clipped_concat]
    rcases List.mem_append.1 member with before | there
    · exact List.mem_append_left _ before
    · obtain rfl := List.mem_singleton.1 there
      rw [Text.endsWith_eq_isSome, Option.isSome_eq_false_iff, Option.isNone_iff_eq_none] at unfinished
      simp [unfinished]

theorem mem_withoutEnd (member : word ∈ words) : word ∈ withoutEnd words ∨ word = "END" := by
  rcases List.eq_nil_or_concat' words with rfl | ⟨front, last, rfl⟩
  · cases member
  · rw [withoutEnd_concat]
    grind

theorem mem_of_mem_withoutEnd (member : word ∈ withoutEnd words) : word ∈ words := by
  rw [withoutEnd] at member
  split at member
  · exact List.mem_of_mem_dropLast member
  · exact member

variable {expression : List DepexToken}

theorem letterCount_clippedWords (solid : ∀ token ∈ expression, IsSolid token.written) :
    letterCount (clippedWords expression) = letterCount (clipped (expression.map DepexToken.written)) := by
  refine letterCount_flatMap_writtenWords (solid_of_mem_clipped ?_)
  exact List.forall_mem_map.2 fun token member => (solid token member).solid

theorem clippedWords_eq_plainWords (plainly : EndsPlainly (expression.map DepexToken.written))
    (whole : ∀ token ∈ expression, writtenWords token.written = [token.written]) :
    clippedWords expression = plainWords expression := by
  have same : ∀ w ∈ plainWords expression, writtenWords w = [w] := by
    intro w member
    obtain ⟨token, listed, rfl⟩ := List.mem_map.1 (mem_of_mem_withoutEnd member)
    exact whole token listed
  have kept : (plainWords expression).flatMap writtenWords = plainWords expression := by
    rw [List.flatMap_congr same, List.flatMap_singleton']
  rcases clipped_cases (expression.map DepexToken.written) with ⟨-, all | shorter⟩ | ⟨broken, -⟩
  · rw [clippedWords, all, ← plainWords, kept]
  · rw [clippedWords, shorter, List.flatMap_append, ← plainWords, kept, List.flatMap_singleton,
      writtenWords_empty, List.append_nil]
  · exact absurd plainly broken

end Clip

section Joined

variable {passed joined : List (List DepexToken)}

theorem mem_foldl_joinWords {expressions : List (List String)} {tokens : List String}
    (listed : word ∈ tokens ∨ ∃ expression ∈ expressions, word ∈ expression) :
    word ∈ expressions.foldl joinWords tokens := by
  induction expressions generalizing tokens with
  | nil => simpa using listed
  | cons first rest ih =>
    refine ih ?_
    rcases listed with before | ⟨expression, member, within⟩
    · exact .inl (by simp [joinWords, before])
    · rcases List.mem_cons.1 member with rfl | later
      · exact .inl (by simp [joinWords, within])
      · exact .inr ⟨expression, later, within⟩

theorem letterCount_eq_of_flatMap {α : Type} {f g : α → List String} {l : List α} {more : Nat}
    (each : ∀ a ∈ l, letterCount (f a) ≤ letterCount (g a))
    (all : letterCount (l.flatMap g) + more ≤ letterCount (l.flatMap f)) :
    more = 0 ∧ ∀ a ∈ l, letterCount (f a) = letterCount (g a) := by
  induction l generalizing more with
  | nil => exact ⟨by simpa using all, nofun⟩
  | cons first rest ih =>
    obtain ⟨here, there⟩ := List.forall_mem_cons.1 each
    rw [List.flatMap_cons, List.flatMap_cons, letterCount_append, letterCount_append] at all
    have left : letterCount (rest.flatMap g) + (more + (letterCount (g first) - letterCount (f first))) ≤
        letterCount (rest.flatMap f) := by omega
    obtain ⟨none, same⟩ := ih there left
    exact ⟨by omega, List.forall_mem_cons.2 ⟨by omega, same⟩⟩

theorem letterCount_clippedWords_le (solid : ∀ token ∈ expression, IsSolid token.written) :
    letterCount (clippedWords expression) ≤ letterCount (plainWords expression) := by
  rw [letterCount_clippedWords solid, plainWords]
  rcases clipped_cases (expression.map DepexToken.written) with ⟨-, same | same⟩ | ⟨-, shorter⟩
  · rw [same]
  · rw [same, letterCount_append]
    exact Nat.le_refl _
  · omega

theorem endsPlainly_of_letterCount (solid : ∀ token ∈ expression, IsSolid token.written)
    (same : letterCount (clippedWords expression) = letterCount (plainWords expression)) :
    EndsPlainly (expression.map DepexToken.written) := by
  rw [letterCount_clippedWords solid, plainWords] at same
  rcases clipped_cases (expression.map DepexToken.written) with ⟨plainly, -⟩ | ⟨-, shorter⟩
  · exact plainly
  · omega

/-- A text that passes over some expressions, or cuts off letters, is shorter. -/
theorem letterCount_eq_of_joined_eq (start : passed <+: joined)
    (solid : ∀ expression ∈ joined, ∀ token ∈ expression, IsSolid token.written)
    (same : (passed.map clippedWords).foldl joinWords [] = (joined.map plainWords).foldl joinWords []) :
    passed = joined ∧ ∀ expression ∈ joined,
      letterCount (clippedWords expression) = letterCount (plainWords expression) := by
  obtain ⟨rest, rfl⟩ := start
  by_cases none : passed = []
  · subst none
    have empty : rest = [] := by simpa using foldl_joinWords_eq_nil_iff.1 same.symm
    subst empty
    exact ⟨rfl, nofun⟩
  · -- What is passed over or cut off is missing from the letters on the left.
    have read := letterCount_joined (by simpa using none : passed.map clippedWords ≠ [])
    have meant := letterCount_joined (by simp [none] : (passed ++ rest).map plainWords ≠ [])
    rw [same, meant, ← List.flatMap_def, ← List.flatMap_def, List.length_map, List.length_map,
      List.length_append, List.flatMap_append, letterCount_append] at read
    have each : ∀ expression ∈ passed,
        letterCount (clippedWords expression) ≤ letterCount (plainWords expression) :=
      fun expression member => letterCount_clippedWords_le (solid expression (by simp [member]))
    have all : letterCount (passed.flatMap plainWords) +
        (5 * rest.length + letterCount (rest.flatMap plainWords)) ≤
          letterCount (passed.flatMap clippedWords) := by omega
    obtain ⟨nothing, counts⟩ := letterCount_eq_of_flatMap each all
    have empty : rest = [] := List.length_eq_zero_iff.1 (by omega)
    subst empty
    rw [List.append_nil]
    exact ⟨rfl, counts⟩

theorem writtenWords_eq_joined_iff {text : String} (start : passed <+: joined)
    (solid : ∀ expression ∈ joined, ∀ token ∈ expression, IsSolid token.written)
    (read : writtenWords text = (passed.map clippedWords).foldl joinWords []) :
    writtenWords text = (joined.map plainWords).foldl joinWords [] ↔
      passed = joined ∧ ∀ expression ∈ joined, EndsPlainly (expression.map DepexToken.written) ∧
        ∀ token ∈ expression, writtenWords token.written = [token.written] := by
  constructor
  · intro same
    obtain ⟨all, counts⟩ := letterCount_eq_of_joined_eq start solid (read.symm.trans same)
    refine ⟨all, fun expression member => ?_⟩
    refine ⟨endsPlainly_of_letterCount (solid expression member) (counts expression member), ?_⟩
    intro token within
    -- A word of the text is one word when it is read again, and only a final `END` is no word of it.
    rcases mem_withoutEnd (List.mem_map_of_mem within) with kept | final
    · have listed : token.written ∈ writtenWords text := by
        rw [same]
        exact mem_foldl_joinWords (.inr ⟨_, List.mem_map_of_mem member, kept⟩)
      exact writtenWords_of_mem listed
    · rw [final]
      decide
  · rintro ⟨rfl, plainly⟩
    have same : passed.map clippedWords = passed.map plainWords := by
      refine List.map_congr_left fun expression member => ?_
      obtain ⟨ends, whole⟩ := plainly expression member
      exact clippedWords_eq_plainWords ends whole
    rw [read, same]

end Joined

end UefiBuild.Module
