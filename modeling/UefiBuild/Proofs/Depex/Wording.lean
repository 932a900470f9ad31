import UefiBuild.Proofs.Depex.Joining
import UefiBuild.Proofs.Text.Words

namespace UefiBuild.Module

open Text (isBlank runs occursIn IsSolid)

def spaced (cs : List Char) : List Char :=
  cs.flatMap fun c => if c = '(' ∨ c = ')' then [' ', c, ' '] else [c]

def scan (cs : List Char) : List (List Char) := runs (spaced cs)

/-- The words of an expression as it is written: parentheses stand alone, all else is cut at blanks. -/
def writtenWords (text : String) : List String := Text.words (String.ofList (spaced text.toList))

def mentionsOrdering (text : String) : Bool := Text.contains text "BEFORE" || Text.contains text "AFTER"

/-- The words without the letters `END` at the very end. -/
def clipped (words : List String) : List String :=
  match words.getLast?.bind (Text.beforeEnd? "END") with
  | some short => words.dropLast ++ [short]
  | none => words

def clippedWords (expression : List DepexToken) : List String :=
  (clipped (expression.map DepexToken.written)).flatMap writtenWords

/-- An expression that applies to the module has a name in it with a word for an ordering inside. -/
def namesOrdering (arch : String) (type : ModuleType) (module : Module) : Bool :=
  (module.applicableDepex arch type).any fun expression =>
    (clipped (expression.map DepexToken.written)).any mentionsOrdering

def writtenDepex (arch : String) (type : ModuleType) (modules : List Module) : List (List DepexToken) :=
  (upToFirst (namesOrdering arch type) modules).flatMap (·.applicableDepex arch type)

variable {a b blanks : List Char} {c : Char}

section Scan

theorem writtenWords_eq (text : String) : writtenWords text = (scan text.toList).map String.ofList := by
  rw [writtenWords, Text.words_eq, String.toList_ofList, scan]

theorem writtenWords_empty : writtenWords "" = [] := by decide

theorem spaced_append (a b : List Char) : spaced (a ++ b) = spaced a ++ spaced b := List.flatMap_append

theorem spaced_of_blank (blank : isBlank c = true) : spaced [c] = [c] := by
  have noParenthesis : ¬ (c = '(' ∨ c = ')') := by
    rintro (rfl | rfl) <;> exact absurd blank (by decide)
  simp [spaced, noParenthesis]

theorem scan_append_blank (blank : isBlank c = true) (a b : List Char) :
    scan (a ++ c :: b) = scan a ++ scan b := by
  have apart : a ++ c :: b = a ++ ([c] ++ b) := rfl
  rw [apart, scan, spaced_append, spaced_append, spaced_of_blank blank]
  exact Text.runs_append_cons blank _ _

theorem scan_append_parenthesis (parenthesis : c = '(' ∨ c = ')') (a b : List Char) :
    scan (a ++ c :: b) = scan a ++ [c] :: scan b := by
  have apart : a ++ c :: b = a ++ ([c] ++ b) := rfl
  have around : spaced [c] = ' ' :: [c] ++ [' '] := by simp [spaced, parenthesis]
  have solid : isBlank c = false := by rcases parenthesis with rfl | rfl <;> decide
  have single : runs [c] = [[c]] := Text.runs_of_solid (by simp) (by simpa using solid)
  have space : isBlank ' ' = true := by decide
  rw [apart, scan, spaced_append, spaced_append, around]
  simp only [List.cons_append, List.nil_append]
  rw [Text.runs_append_cons space, ← List.singleton_append, Text.runs_append_cons space, single]
  rfl

theorem scan_append_blanks (a : List Char) (blank : ∀ c ∈ blanks, isBlank c = true) :
    scan (a ++ blanks) = scan a := by
  have same : spaced blanks = blanks := by
    induction blanks with
    | nil => rfl
    | cons first rest ih =>
      have here := spaced_of_blank (blank first (by simp))
      have there := ih fun c member => blank c (List.mem_cons_of_mem first member)
      rw [← List.singleton_append, spaced_append, here, there]
  rw [scan, spaced_append, same, Text.runs_append_blanks _ blank, scan]

theorem flatten_scan (cs : List Char) : (scan cs).flatten = cs.filter (!isBlank ·) := by
  rw [scan, Text.flatten_runs]
  induction cs with
  | nil => rfl
  | cons first rest ih =>
    have apart : first :: rest = [first] ++ rest := rfl
    rw [apart, spaced_append, List.filter_append, List.filter_append, ih]
    congr 1
    by_cases parenthesis : first = '(' ∨ first = ')'
    · rcases parenthesis with rfl | rfl <;> decide
    · simp [spaced, parenthesis]

theorem spaced_of_plain (opened : '(' ∉ a) (closed : ')' ∉ a) : spaced a = a := by
  have single : ∀ c ∈ a, (if c = '(' ∨ c = ')' then [' ', c, ' '] else [c]) = [c] := by
    intro c member
    refine if_neg ?_
    rintro (rfl | rfl)
    · exact opened member
    · exact closed member
  rw [spaced, List.flatMap_congr single, List.flatMap_singleton']

theorem scan_of_plain (filled : a ≠ []) (solid : ∀ c ∈ a, isBlank c = false) (opened : '(' ∉ a)
    (closed : ')' ∉ a) : scan a = [a] := by
  rw [scan, spaced_of_plain opened closed, Text.runs_of_solid filled solid]

theorem scan_of_mem_scan {cs run : List Char} (member : run ∈ scan cs) : scan run = [run] := by
  -- At a separator the text falls into two shorter ones; without one it is a single word.
  by_cases parted : ∃ c ∈ cs, isBlank c = true ∨ c = '(' ∨ c = ')'
  · obtain ⟨c, within, separates⟩ := parted
    obtain ⟨before, after, rfl⟩ := List.append_of_mem within
    rcases separates with blank | parenthesis
    · rw [scan_append_blank blank, List.mem_append] at member
      rcases member with here | there
      · exact scan_of_mem_scan here
      · exact scan_of_mem_scan there
    · rw [scan_append_parenthesis parenthesis, List.mem_append, List.mem_cons] at member
      rcases member with here | rfl | there
      · exact scan_of_mem_scan here
      · rcases parenthesis with rfl | rfl <;> decide
      · exact scan_of_mem_scan there
  · have plain : ∀ c ∈ cs, isBlank c = false ∧ c ≠ '(' ∧ c ≠ ')' := by
      intro c within
      have apart := fun separates => parted ⟨c, within, separates⟩
      simpa [not_or] using apart
    have opened : '(' ∉ cs := fun within => (plain _ within).2.1 rfl
    have closed : ')' ∉ cs := fun within => (plain _ within).2.2 rfl
    cases cs with
    | nil => cases member
    | cons first rest =>
      have whole := scan_of_plain (List.cons_ne_nil first rest) (fun c within => (plain c within).1)
        opened closed
      rw [whole, List.mem_singleton] at member
      rw [member, whole]
termination_by cs.length

theorem writtenWords_of_mem {text word : String} (member : word ∈ writtenWords text) :
    writtenWords word = [word] := by
  rw [writtenWords_eq] at member
  obtain ⟨run, listed, rfl⟩ := List.mem_map.1 member
  rw [writtenWords_eq, String.toList_ofList, scan_of_mem_scan listed]
  rfl

theorem writtenWords_eq_singleton_iff {word : String} (solid : IsSolid word) :
    writtenWords word = [word] ↔
      ('(' ∈ word.toList ∨ ')' ∈ word.toList → word = "(" ∨ word = ")") := by
  have lone : ∀ c, (c = '(' ∨ c = ')') → c ∈ word.toList → writtenWords word = [word] →
      word = String.ofList [c] := by
    intro c parenthesis within whole
    obtain ⟨before, after, same⟩ := List.append_of_mem within
    rw [writtenWords_eq, same, scan_append_parenthesis parenthesis] at whole
    have listed : String.ofList [c] ∈ [word] := by
      rw [← whole]
      simp
    exact (List.mem_singleton.1 listed).symm
  constructor
  · rintro whole (opened | closed)
    · exact .inl (lone '(' (.inl rfl) opened whole)
    · exact .inr (lone ')' (.inr rfl) closed whole)
  · intro alone
    by_cases parenthesis : '(' ∈ word.toList ∨ ')' ∈ word.toList
    · rcases alone parenthesis with rfl | rfl <;> decide
    · rw [not_or] at parenthesis
      rw [writtenWords_eq, scan_of_plain solid.toList_ne_nil solid.solid parenthesis.1 parenthesis.2]
      simp

end Scan

section Letters

variable {words : List String} {part : List Char}

def letters (words : List String) : List Char := words.flatMap fun word => word.toList ++ [' ']

theorem letters_cons (word : String) (rest : List String) :
    letters (word :: rest) = word.toList ++ ' ' :: letters rest := by simp [letters]

theorem letters_concat (front : List String) (word : String) :
    letters (front ++ [word]) = letters front ++ word.toList ++ [' '] := by simp [letters]

theorem toList_depexText (tokens : List DepexToken) :
    (depexText tokens).toList = letters (tokens.map DepexToken.written) := by
  rw [depexText, Text.join, String.toList_intercalate]
  induction tokens with
  | nil => rfl
  | cons first rest ih =>
    rw [List.map_cons, List.map_cons, List.map_cons, letters_cons, ← ih]
    cases rest with
    | nil => simp
    | cons second others => simp [List.intercalate_cons_cons]

theorem scan_letters (words : List String) :
    scan (letters words) = words.flatMap fun word => scan word.toList := by
  induction words with
  | nil => rfl
  | cons first rest ih => rw [letters_cons, scan_append_blank (by decide), ih, List.flatMap_cons]

theorem occursIn_letters (filled : part ≠ []) (solid : ' ' ∉ part) (words : List String) :
    occursIn part (letters words) = words.any fun word => occursIn part word.toList := by
  induction words with
  | nil => simpa [letters, occursIn] using filled
  | cons first rest ih => rw [letters_cons, Text.occursIn_append_cons filled solid, ih, List.any_cons]

theorem suffix_letters_append_iff {finish word : List Char} (solid : ∀ c ∈ finish, isBlank c = false)
    (front : List String) : finish <:+ letters front ++ word ↔ finish <:+ word := by
  constructor
  · intro ends
    rcases List.suffix_or_suffix_of_suffix ends (List.suffix_append _ word) with within | ⟨excess, rfl⟩
    · exact within
    · rcases List.eq_nil_or_concat' excess with rfl | ⟨more, last, rfl⟩
      · exact List.suffix_rfl
      · -- the last letter before the word is the space after the words in front
        obtain ⟨before, same⟩ := ends
        have cut : before ++ (more ++ [last]) = letters front := by
          rw [← List.append_assoc] at same
          exact List.append_cancel_right same
        have filled : isBlank last = false := solid last (by simp)
        rcases List.eq_nil_or_concat' front with rfl | ⟨others, word, rfl⟩
        · simp [letters] at cut
        · rw [letters_concat, ← List.append_assoc] at cut
          obtain rfl : last = ' ' := by simpa using congrArg List.getLast? cut
          cases filled
  · exact fun ends => ends.trans (List.suffix_append _ _)

end Letters

section Join

variable {front words : List String} {word : String}

theorem trim_letters (solid : ∀ w ∈ front ++ [word], IsSolid w) :
    Text.trimBoth (letters (front ++ [word])) = letters front ++ word.toList := by
  have starts : Text.trimStart (letters (front ++ [word])) = letters (front ++ [word]) := by
    obtain ⟨first, rest, same⟩ : ∃ first rest, front ++ [word] = first :: rest :=
      List.exists_cons_of_ne_nil (by simp)
    have firstSolid : IsSolid first := solid first (by simp [same])
    obtain ⟨c, others, spelled⟩ := List.exists_cons_of_ne_nil firstSolid.toList_ne_nil
    rw [same, letters_cons, spelled, List.cons_append]
    exact Text.trimStart_cons (firstSolid.solid c (by simp [spelled])) _
  have wordSolid : IsSolid word := solid word (by simp)
  obtain ⟨before, last, same⟩ := (List.eq_nil_or_concat' _).resolve_left wordSolid.toList_ne_nil
  have filled : isBlank last = false := wordSolid.solid last (by simp [same])
  have space : ∀ c ∈ [' '], isBlank c = true := List.forall_mem_singleton.2 (by decide)
  have ends := Text.trimEnd_append filled (letters front ++ before) space
  rw [Text.trimBoth, starts, letters_concat, same]
  simpa using ends

theorem solid_end : ∀ c ∈ "END".toList, isBlank c = false := by
  have all : "END".toList.all (!isBlank ·) = true := by decide
  simpa using all

theorem beforeEnd?_letters_append {finish : String} (solid : ∀ c ∈ finish.toList, isBlank c = false)
    (front : List String) (word : String) :
    Text.beforeEnd? finish (String.ofList (letters front ++ word.toList)) =
      (Text.beforeEnd? finish word).map fun short => String.ofList (letters front ++ short.toList) := by
  cases found : Text.beforeEnd? finish word with
  | none =>
    rw [Text.beforeEnd?_eq_none_iff] at found
    rw [Option.map_none, Text.beforeEnd?_eq_none_iff, String.toList_ofList, suffix_letters_append_iff solid]
    exact found
  | some short =>
    rw [Option.map_some, Text.beforeEnd?_eq_some_iff, Text.beforeEnd?_eq_some_iff.1 found]
    simp [← String.toList_inj]

theorem clipped_concat (front : List String) (word : String) :
    clipped (front ++ [word]) = front ++ [(Text.beforeEnd? "END" word).getD word] := by
  cases found : Text.beforeEnd? "END" word <;> simp [clipped, found]

def enclosed (written : String) : List Char :=
  let written := Text.trim written
  Text.trimEnd ((Text.beforeEnd? "END" written).getD written).toList

theorem exists_enclosed_append (solid : ∀ w ∈ words, IsSolid w) :
    ∃ blanks, (∀ c ∈ blanks, isBlank c = true) ∧
      enclosed (String.ofList (letters words)) ++ blanks = letters (clipped words) := by
  rcases List.eq_nil_or_concat' words with rfl | ⟨front, word, rfl⟩
  · exact ⟨[], nofun, by decide⟩
  · have finish := beforeEnd?_letters_append solid_end front word
    have kept : ((Text.beforeEnd? "END" (String.ofList (letters front ++ word.toList))).getD
        (String.ofList (letters front ++ word.toList))).toList =
          letters front ++ ((Text.beforeEnd? "END" word).getD word).toList := by
      rw [finish]
      cases Text.beforeEnd? "END" word <;> simp
    obtain ⟨blanks, blank, same⟩ :=
      Text.exists_trimEnd_append (letters front ++ ((Text.beforeEnd? "END" word).getD word).toList)
    refine ⟨blanks ++ [' '], fun c member => ?_, ?_⟩
    · rcases List.mem_append.1 member with trimmed | space
      · exact blank c trimmed
      · obtain rfl := List.mem_singleton.1 space
        decide
    · rw [enclosed, Text.trim, String.toList_ofList, trim_letters solid, kept, ← List.append_assoc, same,
        clipped_concat, letters_concat]

variable {expression : List DepexToken} {text part : String}

theorem scan_enclosed (solid : ∀ token ∈ expression, IsSolid token.written) :
    scan (enclosed (depexText expression)) =
      (clipped (expression.map DepexToken.written)).flatMap fun word => scan word.toList := by
  obtain ⟨blanks, blank, same⟩ := exists_enclosed_append (List.forall_mem_map.2 solid)
  rw [← scan_letters, ← same, scan_append_blanks _ blank, ← toList_depexText, String.ofList_toList]

theorem occursIn_enclosed (filled : part.toList ≠ []) (apart : ∀ c ∈ part.toList, isBlank c = false)
    (solid : ∀ token ∈ expression, IsSolid token.written) :
    occursIn part.toList (enclosed (depexText expression)) =
      (clipped (expression.map DepexToken.written)).any (Text.contains · part) := by
  obtain ⟨blanks, blank, same⟩ := exists_enclosed_append (List.forall_mem_map.2 solid)
  have space : ' ' ∉ part.toList := fun member => by cases apart _ member
  have kept := occursIn_letters filled space (clipped (expression.map DepexToken.written))
  rw [← same, Text.occursIn_append_blanks filled apart blank, ← toList_depexText,
    String.ofList_toList] at kept
  exact kept

theorem toList_joinDepexText (text written : String) :
    (joinDepexText text written).toList =
      text.toList ++ (if text = "" then [] else ' ' :: ("AND".toList ++ [' '])) ++
        '(' :: (enclosed written ++ [')']) := by
  rw [joinDepexText]
  split <;> simp [enclosed, toString]

theorem contains_joinDepexText (part : String) (filled : part.toList ≠ [])
    (unbroken : part.toList.all (!isBlank ·) = true) (opened : '(' ∉ part.toList)
    (closed : ')' ∉ part.toList) (other : Text.contains "AND" part = false)
    (solid : ∀ token ∈ expression, IsSolid token.written) (text : String) :
    Text.contains (joinDepexText text (depexText expression)) part =
      (Text.contains text part ||
        (clipped (expression.map DepexToken.written)).any (Text.contains · part)) := by
  have none : occursIn part.toList [] = false := by simpa [occursIn] using filled
  have apart : ∀ c ∈ part.toList, isBlank c = false := by simpa using unbroken
  have space : ' ' ∉ part.toList := fun member => by cases apart _ member
  have between : occursIn part.toList
      (text.toList ++ if text = "" then [] else ' ' :: ("AND".toList ++ [' '])) =
        Text.contains text part := by
    rw [Text.contains] at other ⊢
    split
    · rw [List.append_nil]
    · rw [Text.occursIn_append_cons filled space, Text.occursIn_append_cons filled space, other, none]
      simp
  rw [Text.contains, toList_joinDepexText, Text.occursIn_append_cons filled opened, between,
    Text.occursIn_append_cons filled closed, none, Bool.or_false, occursIn_enclosed filled apart solid]

theorem mentionsOrdering_joinDepexText (solid : ∀ token ∈ expression, IsSolid token.written)
    (text : String) :
    mentionsOrdering (joinDepexText text (depexText expression)) =
      (mentionsOrdering text || (clipped (expression.map DepexToken.written)).any mentionsOrdering) := by
  have before := contains_joinDepexText "BEFORE" (by decide) (by decide) (by decide) (by decide)
    (by decide) solid text
  have after := contains_joinDepexText "AFTER" (by decide) (by decide) (by decide) (by decide)
    (by decide) solid text
  rw [mentionsOrdering, mentionsOrdering, before, after, Bool.eq_iff_iff]
  simp only [Bool.or_eq_true, List.any_eq_true, mentionsOrdering]
  grind

def IsStarted (text : String) : Prop := text = "" ∨ writtenWords text ≠ []

theorem writtenWords_joinDepexText (start : IsStarted text)
    (solid : ∀ token ∈ expression, IsSolid token.written) :
    writtenWords (joinDepexText text (depexText expression)) =
      joinWords (writtenWords text) (clippedWords expression) := by
  have nothing : scan [] = [] := by decide
  have between : (scan (text.toList ++ if text = "" then [] else ' ' :: ("AND".toList ++ [' ']))).map
      String.ofList = writtenWords text ++ if (writtenWords text).isEmpty then [] else ["AND"] := by
    have conjunction : scan ("AND".toList ++ [' ']) = ["AND".toList] := by decide
    rcases start with rfl | filled
    · simp [writtenWords_empty, nothing]
    · have started : text ≠ "" := by
        rintro rfl
        exact filled writtenWords_empty
      rw [if_neg started, if_neg (by simpa using filled), scan_append_blank (by decide), List.map_append,
        ← writtenWords_eq, conjunction, List.map_singleton, String.ofList_toList]
  rw [writtenWords_eq, toList_joinDepexText, scan_append_parenthesis (.inl rfl), List.map_append, between,
    scan_append_parenthesis (.inr rfl), scan_enclosed solid, nothing, joinWords, clippedWords]
  simp [List.map_flatMap, ← writtenWords_eq]

end Join

section Merge

variable {arch : String} {type : ModuleType} {text : String} {modules : List Module}

theorem foldl_joinDepexText {expressions : List (List DepexToken)} (start : IsStarted text)
    (solid : ∀ expression ∈ expressions, ∀ token ∈ expression, IsSolid token.written) :
    let joined := (expressions.map depexText).foldl joinDepexText text
    IsStarted joined ∧
      writtenWords joined = (expressions.map clippedWords).foldl joinWords (writtenWords text) ∧
      mentionsOrdering joined = (mentionsOrdering text || expressions.any fun expression =>
        (clipped (expression.map DepexToken.written)).any mentionsOrdering) := by
  induction expressions generalizing text with
  | nil => simpa using start
  | cons first rest ih =>
    obtain ⟨firstSolid, others⟩ := List.forall_mem_cons.1 solid
    have words := writtenWords_joinDepexText start firstSolid
    have started : IsStarted (joinDepexText text (depexText first)) := .inr (by simp [words, joinWords])
    obtain ⟨stillStarted, allWords, mentions⟩ := ih started others
    rw [List.map_cons, List.map_cons, List.foldl_cons, List.foldl_cons, ← words, List.any_cons,
      ← Bool.or_assoc, ← mentionsOrdering_joinDepexText firstSolid]
    exact ⟨stillStarted, allWords, mentions⟩

/-- The text is that of the expressions up to the first module where it mentions an ordering. -/
theorem writtenWords_joinModuleTexts (start : IsStarted text) (plain : mentionsOrdering text = false)
    (solid : ∀ m ∈ modules, ∀ expression ∈ m.applicableDepex arch type, ∀ token ∈ expression,
      IsSolid token.written) :
    writtenWords (joinModuleTexts arch type text modules) =
      ((writtenDepex arch type modules).map clippedWords).foldl joinWords (writtenWords text) := by
  induction modules generalizing text with
  | nil => simp [joinModuleTexts, writtenDepex, upToFirst]
  | cons module others ih =>
    obtain ⟨firstSolid, othersSolid⟩ := List.forall_mem_cons.1 solid
    obtain ⟨started, words, mentions⟩ := foldl_joinDepexText start firstSolid
    have stops : mentionsOrdering (((module.applicableDepex arch type).map depexText).foldl joinDepexText
        text) = namesOrdering arch type module := by
      rw [mentions, plain, Bool.false_or, namesOrdering]
    rw [joinModuleTexts, ← mentionsOrdering, stops, writtenDepex, upToFirst]
    cases here : namesOrdering arch type module with
    | true => simpa using words
    | false =>
      rw [here] at stops
      simp only [Bool.false_eq_true, ite_false]
      rw [ih started stops othersSolid, words, writtenDepex, List.flatMap_cons, List.map_append,
        List.foldl_append]

theorem writtenWords_mergedDepexText {module : Module} {libraries : List Module} {text : String}
    (done : module.mergedDepexText libraries arch = some text)
    (solid : ∀ m ∈ module :: libraries, ∀ expression ∈ m.applicableDepex arch module.type,
      ∀ token ∈ expression, IsSolid token.written) :
    writtenWords text =
      ((writtenDepex arch module.type (module :: libraries)).map clippedWords).foldl joinWords [] := by
  rw [mergedDepexText] at done
  split at done
  · obtain rfl := Option.some.inj done
    rw [writtenWords_joinModuleTexts (.inl rfl) (by decide) solid, writtenWords_empty]
  · cases done

end Merge

end UefiBuild.Module
