import UefiBuild.Module.Symbols

namespace UefiBuild

inductive Connective
  | and
  | or
  deriving DecidableEq

namespace Connective

def word : Connective → String
  | and => "AND"
  | or => "OR"

def apply : Connective → Bool → Bool → Bool
  | and => Bool.and
  | or => Bool.or

def ofWord? (word : String) : Option Connective :=
  if word = "AND" then some and else if word = "OR" then some or else none

theorem ofWord?_word (connective : Connective) : ofWord? connective.word = some connective := by
  cases connective <;> decide

end Connective

inductive Condition
  | installed (guid : String)
  | constant (value : Bool)
  | negation (operand : Condition)
  | joined (connective : Connective) (left right : Condition)
  deriving DecidableEq

namespace Condition

def holds (installed : String → Bool) : Condition → Bool
  | .installed guid => installed guid
  | .constant value => value
  | .negation operand => !operand.holds installed
  | .joined connective left right => connective.apply (left.holds installed) (right.holds installed)

def constantWord (value : Bool) : String := if value then "TRUE" else "FALSE"

/-- The words spell the condition. `rank` says how tightly each connective binds, and of two that bind
alike the left one goes first. A connective outside parentheses binds as tightly as `level` at least. -/
inductive Spells (rank : Connective → Nat) : Nat → Condition → List String → Prop
  | installed {level : Nat} {guid : String} (plain : guid ∉ Module.depexWords) :
    Spells rank level (.installed guid) [guid]
  | constant {level : Nat} (value : Bool) : Spells rank level (.constant value) [constantWord value]
  | negation {level inner : Nat} {operand : Condition} {words : List String}
    (tight : ∀ connective, rank connective < inner) (spelled : Spells rank inner operand words) :
    Spells rank level (.negation operand) ("NOT" :: words)
  | enclosed {level : Nat} {condition : Condition} {words : List String}
    (spelled : Spells rank 0 condition words) : Spells rank level condition ("(" :: words ++ [")"])
  | joined {level : Nat} {connective : Connective} {left right : Condition} {before after : List String}
    (binds : level ≤ rank connective) (first : Spells rank (rank connective) left before)
    (second : Spells rank (rank connective + 1) right after) :
    Spells rank level (.joined connective left right) (before ++ connective.word :: after)

def Expresses (rank : Connective → Nat) (condition : Condition) (words : List String) : Prop :=
  Spells rank 0 condition words ∨ ∃ body, words = body ++ ["END"] ∧ Spells rank 0 condition body

inductive Pending
  | negation
  | operand (connective : Connective) (left : Condition)
  | parenthesis

variable {rank : Connective → Nat} {level : Nat} {stack : List Pending} {condition : Condition}
  {words : List String}

def finish (rank : Connective → Nat) (level : Nat) : List Pending → Condition → List Pending × Condition
  | .negation :: stack, condition => finish rank level stack (.negation condition)
  | .operand connective left :: stack, right =>
    if level ≤ rank connective then finish rank level stack (.joined connective left right)
    else (.operand connective left :: stack, right)
  | stack, condition => (stack, condition)

inductive Reader
  | waiting (stack : List Pending)
  | holding (stack : List Pending) (condition : Condition)

def Reader.next (rank : Connective → Nat) : Reader → String → Option Reader
  | .waiting stack, word =>
    if word = "NOT" then some (.waiting (.negation :: stack))
    else if word = "(" then some (.waiting (.parenthesis :: stack))
    else if word = "TRUE" then some (.holding stack (.constant true))
    else if word = "FALSE" then some (.holding stack (.constant false))
    else if word ∈ Module.depexWords then none
    else some (.holding stack (.installed word))
  | .holding stack condition, word =>
    if word = ")" then
      match finish rank 0 stack condition with
      | (.parenthesis :: outer, inside) => some (.holding outer inside)
      | _ => none
    else
      (Connective.ofWord? word).map fun connective =>
        let (outer, left) := finish rank (rank connective) stack condition
        .waiting (.operand connective left :: outer)

def read? (rank : Connective → Nat) (words : List String) : Option Condition := do
  match ← words.foldlM (Reader.next rank) (.waiting []) with
  | .holding stack condition =>
    match finish rank 0 stack condition with
    | ([], whole) => some whole
    | _ => none
  | .waiting _ => none

/-- Nothing on top of the stack binds as tightly as a connective that may come next. -/
def Bounded (rank : Connective → Nat) (level : Nat) (stack : List Pending) : Prop :=
  ∀ connective, level ≤ rank connective → ∀ condition,
    finish rank (rank connective) stack condition = (stack, condition)

theorem Bounded.mono {higher : Nat} (bounded : Bounded rank level stack) (le : level ≤ higher) :
    Bounded rank higher stack :=
  fun connective binds => bounded connective (Nat.le_trans le binds)

theorem bounded_negation (tight : ∀ connective, rank connective < level) :
    Bounded rank level (.negation :: stack) := by
  intro connective binds
  have below := tight connective
  omega

theorem bounded_operand (connective : Connective) (left : Condition) :
    Bounded rank (rank connective + 1) (.operand connective left :: stack) := by
  intro next binds condition
  have looser : ¬ rank next ≤ rank connective := by omega
  rw [finish, if_neg looser]

/-- A reader takes in the words of a condition as it would take in the condition itself. -/
theorem Spells.reads (spelled : Spells rank level condition words) {stack : List Pending}
    (bounded : Bounded rank level stack) : ∃ after held,
      words.foldlM (Reader.next rank) (.waiting stack) = some (.holding after held) ∧
      ∀ next connective, next ≤ level → next ≤ rank connective →
        finish rank next after held = finish rank next stack condition := by
  induction spelled generalizing stack with
  | @installed level guid plain =>
    have read : Reader.next rank (.waiting stack) guid = some (.holding stack (.installed guid)) := by
      simp only [Module.depexWords, List.mem_cons, not_or] at plain
      simp [Reader.next, Module.depexWords, plain]
    exact ⟨stack, .installed guid, by rw [List.foldlM_cons, read]; rfl, fun _ _ _ _ => rfl⟩
  | constant value =>
    refine ⟨stack, .constant value, ?_, fun _ _ _ _ => rfl⟩
    cases value <;> rfl
  | negation tight _ ih =>
    have inside : Bounded rank _ (.negation :: stack) := bounded_negation tight
    obtain ⟨after, held, read, same⟩ := ih inside
    refine ⟨after, held, read, fun next connective _ binds => ?_⟩
    have below := tight connective
    exact same next connective (by omega) binds
  | @enclosed level condition words _ ih =>
    have inner : Bounded rank 0 (.parenthesis :: stack) := fun _ _ _ => rfl
    obtain ⟨after, held, read, same⟩ := ih inner
    have closed : finish rank 0 after held = (.parenthesis :: stack, condition) :=
      same 0 .and (Nat.le_refl _) (Nat.zero_le _)
    have next : Reader.next rank (.holding after held) ")" = some (.holding stack condition) := by
      simp [Reader.next, closed]
    refine ⟨stack, condition, ?_, fun _ _ _ _ => rfl⟩
    change (words ++ [")"]).foldlM (Reader.next rank) (.waiting (.parenthesis :: stack)) = _
    rw [List.foldlM_append, read]
    change [")"].foldlM (Reader.next rank) (.holding after held) = _
    rw [List.foldlM_cons, next]
    rfl
  | @joined level connective left right before after binds _ _ first second =>
    obtain ⟨middle, held, read, same⟩ := first (bounded.mono binds)
    have finished : finish rank (rank connective) middle held = (stack, left) :=
      (same _ connective (Nat.le_refl _) (Nat.le_refl _)).trans (bounded connective binds left)
    have noParenthesis : connective.word ≠ ")" := by cases connective <;> decide
    have next : Reader.next rank (.holding middle held) connective.word =
        some (.waiting (.operand connective left :: stack)) := by
      simp [Reader.next, noParenthesis, Connective.ofWord?_word, finished]
    have rest : Bounded rank (rank connective + 1) (.operand connective left :: stack) :=
      bounded_operand connective left
    obtain ⟨last, whole, readAfter, sameAfter⟩ := second rest
    refine ⟨last, whole, ?_, fun lower other le reaches => ?_⟩
    · rw [List.foldlM_append, read]
      change (connective.word :: after).foldlM (Reader.next rank) (.holding middle held) = _
      rw [List.foldlM_cons, next]
      exact readAfter
    · have binds' : lower ≤ rank connective := Nat.le_trans le binds
      rw [sameAfter lower connective (by omega) binds', finish, if_pos binds']

theorem Spells.read?_eq (spelled : Spells rank 0 condition words) : read? rank words = some condition := by
  have empty : Bounded rank 0 [] := fun _ _ _ => rfl
  obtain ⟨after, held, read, same⟩ := spelled.reads empty
  have whole : finish rank 0 after held = ([], condition) := same 0 .and (Nat.le_refl _) (Nat.zero_le _)
  simp [read?, read, whole]

/-- Words spell one condition at most. -/
theorem Spells.unique {other : Condition} (spelled : Spells rank 0 condition words)
    (again : Spells rank 0 other words) : condition = other :=
  Option.some.inj (spelled.read?_eq.symm.trans again.read?_eq)

theorem Spells.mono {lower : Nat} (spelled : Spells rank level condition words) (le : lower ≤ level) :
    Spells rank lower condition words := by
  cases spelled with
  | installed plain => exact .installed plain
  | constant value => exact .constant value
  | negation tight spelled => exact .negation tight spelled
  | enclosed spelled => exact .enclosed spelled
  | joined binds first second => exact .joined (Nat.le_trans le binds) first second

theorem Spells.ne_nil (spelled : Spells rank level condition words) : words ≠ [] := by
  cases spelled <;> simp

def conditionWords : List String := ["NOT", "AND", "OR", "TRUE", "FALSE", "(", ")"]

/-- A condition has no room for `END`, nor for a word that places a module before or after another. -/
theorem Spells.mem_conditionWords (spelled : Spells rank level condition words) {word : String}
    (member : word ∈ words) (reserved : word ∈ Module.depexWords) : word ∈ conditionWords := by
  induction spelled with
  | installed plain =>
    obtain rfl := List.mem_singleton.1 member
    exact absurd reserved plain
  | constant value =>
    obtain rfl := List.mem_singleton.1 member
    cases value <;> decide
  | negation _ _ ih =>
    rcases List.mem_cons.1 member with rfl | inside
    · decide
    · exact ih inside
  | enclosed _ ih =>
    rcases List.mem_append.1 member with opened | closed
    · rcases List.mem_cons.1 opened with rfl | inside
      · decide
      · exact ih inside
    · obtain rfl := List.mem_singleton.1 closed
      decide
  | @joined _ connective _ _ _ _ _ _ _ first second =>
    rcases List.mem_append.1 member with before | later
    · exact first before
    · rcases List.mem_cons.1 later with rfl | after
      · cases connective <;> decide
      · exact second after

end Condition

end UefiBuild
