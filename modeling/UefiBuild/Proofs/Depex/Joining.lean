import UefiBuild.Depex
import UefiBuild.Proofs.Wildcard

namespace UefiBuild

section UpToFirst

variable {α : Type} {stop : α → Bool} {l : List α}

def upToFirst (stop : α → Bool) : List α → List α
  | [] => []
  | a :: rest => if stop a then [a] else a :: upToFirst stop rest

theorem upToFirst_of_none (none : ∀ a ∈ l, stop a = false) : upToFirst stop l = l := by
  induction l with
  | nil => rfl
  | cons a rest ih =>
    have goesOn : stop a = false := none a (by simp)
    rw [upToFirst, goesOn, ih fun b member => none b (List.mem_cons_of_mem a member)]
    rfl

theorem upToFirst_append {before after : List α} {a : α} (none : ∀ b ∈ before, stop b = false)
    (here : stop a = true) : upToFirst stop (before ++ a :: after) = before ++ [a] := by
  induction before with
  | nil => simp [upToFirst, here]
  | cons b rest ih =>
    have goesOn : stop b = false := none b (by simp)
    rw [List.cons_append, upToFirst, goesOn, ih fun c member => none c (List.mem_cons_of_mem b member)]
    rfl

theorem upToFirst_cases (stop : α → Bool) (l : List α) :
    (∀ a ∈ l, stop a = false) ∨
      ∃ before a after, l = before ++ a :: after ∧ (∀ b ∈ before, stop b = false) ∧ stop a = true := by
  induction l with
  | nil => exact .inl nofun
  | cons a rest ih =>
    cases here : stop a with
    | true => exact .inr ⟨[], a, rest, rfl, nofun, here⟩
    | false =>
      rcases ih with none | ⟨before, b, after, rfl, none, found⟩
      · exact .inl (List.forall_mem_cons.2 ⟨here, none⟩)
      · exact .inr ⟨a :: before, b, after, rfl, List.forall_mem_cons.2 ⟨here, none⟩, found⟩

theorem isPrefix_upToFirst {early : α → Bool} (sooner : ∀ a ∈ l, stop a = true → early a = true) :
    upToFirst early l <+: upToFirst stop l := by
  induction l with
  | nil => exact List.prefix_rfl
  | cons a rest ih =>
    obtain ⟨here, there⟩ := List.forall_mem_cons.1 sooner
    rw [upToFirst, upToFirst]
    cases stops : stop a with
    | true => simp [here stops]
    | false =>
      cases early a with
      | true => simp
      | false => simpa using ih there

theorem isPrefix_upToFirst_self (stop : α → Bool) (l : List α) : upToFirst stop l <+: l := by
  have all : upToFirst (fun _ => false) l = l := upToFirst_of_none fun _ _ => rfl
  have shorter : upToFirst stop l <+: upToFirst (fun _ => false) l := isPrefix_upToFirst nofun
  rwa [all] at shorter

end UpToFirst

namespace Module

variable {arch : String} {type : ModuleType} {tokens expression : List String}

/-- The expression is filed for the architecture and the module type, or for all of either. -/
def DepexApplies (module : Module) (arch : String) (type : ModuleType) (expression : List DepexToken) :
    Prop :=
  ∃ filedArch filedType, module.depex.entries.get? [filedArch, filedType] = some expression ∧
    (filedArch = arch ∨ filedArch = module.depex.wildcard) ∧
    (filedType = type.name ∨ filedType = module.depex.wildcard)

theorem mem_applicableDepex {module : Module} {expression : List DepexToken} :
    expression ∈ module.applicableDepex arch type ↔ module.DepexApplies arch type expression := by
  rw [applicableDepex, WildcardTable.mem_resolveAll]
  constructor
  · rintro ⟨pattern, covers, filed⟩
    cases covers with
    | cons archFits rest =>
      cases rest with
      | cons typeFits rest =>
        cases rest
        exact ⟨_, _, filed, archFits, typeFits⟩
  · rintro ⟨filedArch, filedType, filed, archFits, typeFits⟩
    exact ⟨_, .cons archFits (.cons typeFits .nil), filed⟩

def hasOrdering (arch : String) (type : ModuleType) (module : Module) : Bool :=
  (module.applicableDepex arch type).any fun expression => (depexValues expression).any isOrdering

def joinedDepex (arch : String) (type : ModuleType) (modules : List Module) : List (List DepexToken) :=
  (upToFirst (hasOrdering arch type) modules).flatMap (·.applicableDepex arch type)

theorem withoutEnd_cons {word : String} (other : word ≠ "END") :
    withoutEnd (word :: tokens) = word :: withoutEnd tokens := by
  cases tokens with
  | nil => simp [withoutEnd, other]
  | cons first rest =>
    unfold withoutEnd
    rw [List.getLast?_cons_cons]
    split <;> rfl

theorem withoutEnd_concat (front : List String) (last : String) :
    withoutEnd (front ++ [last]) = if last = "END" then front else front ++ [last] := by
  simp [withoutEnd]

theorem any_isOrdering_withoutEnd (tokens : List String) :
    (withoutEnd tokens).any isOrdering = tokens.any isOrdering := by
  unfold withoutEnd
  split
  · rename_i last
    obtain ⟨front, rfl⟩ := List.getLast?_eq_some_iff.1 last
    have plain : isOrdering "END" = false := by decide
    simp [plain]
  · rfl

def joinWords (tokens expression : List String) : List String :=
  tokens ++ (if tokens.isEmpty then [] else ["AND"]) ++ "(" :: expression ++ [")"]

theorem joinDepex_eq (tokens expression : List String) :
    joinDepex tokens expression = joinWords tokens (withoutEnd expression) := by
  rw [joinDepex, withoutEnd_cons (by decide), joinWords]

theorem joinDepex_nil (expression : List String) :
    joinDepex [] expression = "(" :: withoutEnd expression ++ [")"] := by
  rw [joinDepex_eq]
  rfl

theorem any_isOrdering_joinDepex (tokens expression : List String) :
    (joinDepex tokens expression).any isOrdering =
      (tokens.any isOrdering || expression.any isOrdering) := by
  have opened : isOrdering "(" = false := by decide
  have closed : isOrdering ")" = false := by decide
  have both : isOrdering "AND" = false := by decide
  rw [joinDepex_eq, joinWords]
  simp only [List.any_append, List.any_cons, List.any_nil, any_isOrdering_withoutEnd, opened, closed,
    Bool.false_or, Bool.or_false]
  split
  · simp
  · simp [both]

theorem any_isOrdering_foldl (expressions : List (List String)) (tokens : List String) :
    (expressions.foldl joinDepex tokens).any isOrdering =
      (tokens.any isOrdering || expressions.any (·.any isOrdering)) := by
  induction expressions generalizing tokens with
  | nil => simp
  | cons expression rest ih =>
    rw [List.foldl_cons, ih, any_isOrdering_joinDepex, List.any_cons, Bool.or_assoc]

theorem any_isOrdering_applicable (module : Module) (tokens : List String) :
    (((module.applicableDepex arch type).map depexValues).foldl joinDepex tokens).any isOrdering =
      (tokens.any isOrdering || module.hasOrdering arch type) := by
  rw [any_isOrdering_foldl, List.any_map]
  rfl

theorem joinModules_eq (modules : List Module) (plain : tokens.any isOrdering = false) :
    joinModules arch type tokens modules =
      ((joinedDepex arch type modules).map depexValues).foldl joinDepex tokens := by
  induction modules generalizing tokens with
  | nil => rfl
  | cons module others ih =>
    have stops : (((module.applicableDepex arch type).map depexValues).foldl joinDepex tokens).any
        isOrdering = hasOrdering arch type module := by
      rw [any_isOrdering_applicable, plain, Bool.false_or]
    rw [joinModules, stops, joinedDepex, upToFirst]
    cases here : hasOrdering arch type module with
    | true => simp
    | false =>
      rw [here] at stops
      simp only [Bool.false_eq_true, ite_false]
      rw [ih stops, joinedDepex, List.flatMap_cons, List.map_append, List.foldl_append]

theorem mergedDepex_eq (module : Module) (libraries : List Module) (arch : String) :
    module.mergedDepex libraries arch =
      if module.mergesDepex then
        some (((joinedDepex arch module.type (module :: libraries)).map depexValues).foldl joinDepex [])
      else none := by
  rw [mergedDepex, joinModules_eq _ rfl]

theorem mergedDepex_of_unordered {module : Module} {libraries : List Module}
    (merges : module.mergesDepex = true)
    (unordered : ∀ m ∈ module :: libraries, hasOrdering arch module.type m = false) :
    module.mergedDepex libraries arch = some ((((module :: libraries).flatMap fun m =>
      m.applicableDepex arch module.type).map depexValues).foldl joinDepex []) := by
  rw [mergedDepex_eq, if_pos merges, joinedDepex, upToFirst_of_none unordered]

theorem foldl_joinWords_eq_nil_iff {expressions : List (List String)} :
    expressions.foldl joinWords [] = [] ↔ expressions = [] := by
  rcases List.eq_nil_or_concat' expressions with rfl | ⟨front, last, rfl⟩
  · simp
  · rw [List.foldl_append, List.foldl_cons, List.foldl_nil, joinWords]
    simp

theorem foldl_joinDepex_eq_nil_iff {expressions : List (List String)} :
    expressions.foldl joinDepex [] = [] ↔ expressions = [] := by
  have same : expressions.foldl joinDepex [] = (expressions.map withoutEnd).foldl joinWords [] := by
    rw [List.foldl_map]
    exact congrArg (fun join => expressions.foldl join []) (funext₂ joinDepex_eq)
  rw [same, foldl_joinWords_eq_nil_iff, List.map_eq_nil_iff]

end Module

end UefiBuild
