import UefiBuild.Catalog.Request
import UefiBuild.Proofs.Catalog.Module
import UefiBuild.Proofs.Depex.Clipping

namespace UefiBuild.Module

open Text (IsSolid)

variable {arch : String} {type : ModuleType}

section Tokens

/-- A word that is a name stands for a value that is no word of the language, any other for itself. -/
structure IsFaithful (token : DepexToken) : Prop where
  solid : IsSolid token.written
  value_iff : ∀ word ∈ depexWords, token.value = word ↔ token.written = word

theorem isFaithful_of_isRead {token : DepexToken} (read : token.IsRead)
    (name : token.written ∉ depexWords → token.value ∉ depexWords) : IsFaithful token where
  solid := read.solid
  value_iff word known := by
    by_cases written : token.written ∈ depexWords
    · rw [read.value_eq written]
    · have value := name written
      exact ⟨fun same => absurd (same ▸ known) value, fun same => absurd (same ▸ known) written⟩

def unended (expression : List DepexToken) : List DepexToken :=
  if expression.getLast?.map DepexToken.value = some "END" then expression.dropLast else expression

def joinTokens (tokens expression : List DepexToken) : List DepexToken :=
  tokens ++ (if tokens.isEmpty then [] else [⟨"AND", "AND"⟩]) ++
    ⟨"(", "("⟩ :: unended expression ++ [⟨")", ")"⟩]

variable {expression tokens : List DepexToken}

theorem map_value_joinTokens (tokens expression : List DepexToken) :
    (joinTokens tokens expression).map DepexToken.value =
      joinDepex (tokens.map DepexToken.value) (depexValues expression) := by
  have values : (unended expression).map DepexToken.value = withoutEnd (depexValues expression) := by
    rw [unended, withoutEnd, depexValues, List.getLast?_map, ← List.map_dropLast]
    split <;> rfl
  rw [joinDepex_eq, joinWords, joinTokens, ← values]
  cases tokens <;> simp

theorem map_written_joinTokens (faithful : ∀ token ∈ expression, IsFaithful token)
    (tokens : List DepexToken) :
    (joinTokens tokens expression).map DepexToken.written =
      joinWords (tokens.map DepexToken.written) (plainWords expression) := by
  have final : expression.getLast?.map DepexToken.value = some "END" ↔
      expression.getLast?.map DepexToken.written = some "END" := by
    cases last : expression.getLast? with
    | none => simp
    | some token =>
      have known := (faithful token (List.mem_of_getLast? last)).value_iff "END" (by decide)
      simpa using known
  have words : (unended expression).map DepexToken.written = plainWords expression := by
    simp only [unended, plainWords, withoutEnd, List.getLast?_map, ← List.map_dropLast, final]
    split <;> rfl
  rw [joinWords, joinTokens, ← words]
  cases tokens <;> simp

theorem map_value_foldl_joinTokens (expressions : List (List DepexToken)) (tokens : List DepexToken) :
    (expressions.foldl joinTokens tokens).map DepexToken.value =
      (expressions.map depexValues).foldl joinDepex (tokens.map DepexToken.value) := by
  induction expressions generalizing tokens with
  | nil => rfl
  | cons first rest ih => rw [List.foldl_cons, ih, map_value_joinTokens, List.map_cons, List.foldl_cons]

theorem map_written_foldl_joinTokens {expressions : List (List DepexToken)}
    (faithful : ∀ expression ∈ expressions, ∀ token ∈ expression, IsFaithful token)
    (tokens : List DepexToken) :
    (expressions.foldl joinTokens tokens).map DepexToken.written =
      (expressions.map plainWords).foldl joinWords (tokens.map DepexToken.written) := by
  induction expressions generalizing tokens with
  | nil => rfl
  | cons first rest ih =>
    obtain ⟨here, there⟩ := List.forall_mem_cons.1 faithful
    rw [List.foldl_cons, ih there, map_written_joinTokens here, List.map_cons, List.foldl_cons]

end Tokens

section Image

variable {modules : List Module}

theorem namesOrdering_of_hasOrdering {module : Module}
    (faithful : ∀ expression ∈ module.applicableDepex arch type, ∀ token ∈ expression, IsFaithful token)
    (ordering : hasOrdering arch type module = true) : namesOrdering arch type module = true := by
  obtain ⟨expression, applicable, ordered⟩ := List.any_eq_true.1 ordering
  obtain ⟨value, listed, orders⟩ := List.any_eq_true.1 ordered
  obtain ⟨token, within, rfl⟩ := List.mem_map.1 listed
  have known := (faithful expression applicable token within).value_iff
  -- The word stands for itself and does not end in `END`, so it is not cut.
  refine List.any_eq_true.2 ⟨expression, applicable, List.any_eq_true.2 ⟨token.written, ?_, ?_⟩⟩
  all_goals
    rw [isOrdering, Bool.or_eq_true, decide_eq_true_eq, decide_eq_true_eq, known "BEFORE" (by decide),
      known "AFTER" (by decide)] at orders
  · refine mem_clipped (List.mem_map_of_mem within) ?_
    rcases orders with same | same <;> rw [same] <;> decide
  · rcases orders with same | same <;> rw [same] <;> decide

/-- What a text must avoid so that it can be read back: it stops at no module before another one with an
expression, cuts off the end of no name, and has no name with a parenthesis in it. -/
structure ReadsBack (arch : String) (type : ModuleType) (modules : List Module) : Prop where
  unbroken : (upToFirst (hasOrdering arch type) modules).Pairwise fun m later =>
    namesOrdering arch type m = true → later.applicableDepex arch type = []
  plainly : ∀ expression ∈ joinedDepex arch type modules,
    EndsPlainly (expression.map DepexToken.written)
  alone : ∀ expression ∈ joinedDepex arch type modules, ∀ token ∈ expression,
    '(' ∈ token.written.toList ∨ ')' ∈ token.written.toList → token.written = "(" ∨ token.written = ")"

instance : Decidable (ReadsBack arch type modules) :=
  decidable_of_iff (_ ∧ _ ∧ _) ⟨fun ⟨unbroken, plainly, alone⟩ => ⟨unbroken, plainly, alone⟩,
    fun ⟨unbroken, plainly, alone⟩ => ⟨unbroken, plainly, alone⟩⟩

section Faithful

variable (faithful : ∀ m ∈ modules, ∀ expression ∈ m.applicableDepex arch type, ∀ token ∈ expression,
  IsFaithful token)
include faithful

theorem isPrefix_writtenDepex : writtenDepex arch type modules <+: joinedDepex arch type modules := by
  obtain ⟨rest, same⟩ := isPrefix_upToFirst fun m listed => namesOrdering_of_hasOrdering (faithful m listed)
  rw [joinedDepex, writtenDepex, ← same, List.flatMap_append]
  exact List.prefix_append _ _

theorem faithful_of_mem_joinedDepex :
    ∀ expression ∈ joinedDepex arch type modules, ∀ token ∈ expression, IsFaithful token := by
  intro expression member
  obtain ⟨m, passed, applicable⟩ := List.mem_flatMap.1 member
  exact faithful m ((isPrefix_upToFirst_self _ _).subset passed) expression applicable

theorem writtenDepex_eq_joinedDepex_iff :
    writtenDepex arch type modules = joinedDepex arch type modules ↔
      (upToFirst (hasOrdering arch type) modules).Pairwise fun m later =>
        namesOrdering arch type m = true → later.applicableDepex arch type = [] := by
  induction modules with
  | nil => simp [writtenDepex, joinedDepex, upToFirst]
  | cons m rest ih =>
    obtain ⟨here, there⟩ := List.forall_mem_cons.1 faithful
    have onward := ih there
    rw [writtenDepex, joinedDepex] at onward ⊢
    rw [upToFirst, upToFirst]
    cases stops : hasOrdering arch type m with
    | true => simp [namesOrdering_of_hasOrdering here stops]
    | false =>
      cases names : namesOrdering arch type m with
      | true =>
        -- Here the text stops and the tokens go on, so nothing may follow.
        simp only [ite_true, Bool.false_eq_true, ite_false, List.flatMap_cons, List.flatMap_nil,
          List.append_nil]
        rw [List.self_eq_append_right, List.flatMap_eq_nil_iff, List.pairwise_cons]
        constructor
        · intro none
          exact ⟨fun later member _ => none later member,
            List.pairwise_of_forall_mem_list fun _ _ later member _ => none later member⟩
        · exact fun alone later member => alone.1 later member names
      | false => simpa [names] using onward

theorem readsBack_iff :
    ReadsBack arch type modules ↔
      writtenDepex arch type modules = joinedDepex arch type modules ∧
        ∀ expression ∈ joinedDepex arch type modules, EndsPlainly (expression.map DepexToken.written) ∧
          ∀ token ∈ expression, writtenWords token.written = [token.written] := by
  have solid : ∀ expression ∈ joinedDepex arch type modules, ∀ token ∈ expression,
      IsSolid token.written := fun expression member token within =>
    (faithful_of_mem_joinedDepex faithful expression member token within).solid
  rw [writtenDepex_eq_joinedDepex_iff faithful]
  constructor
  · intro reads
    refine ⟨reads.unbroken, fun expression member => ⟨reads.plainly expression member, ?_⟩⟩
    intro token within
    exact (writtenWords_eq_singleton_iff (solid expression member token within)).2
      (reads.alone expression member token within)
  · rintro ⟨unbroken, each⟩
    refine ⟨unbroken, fun expression member => (each expression member).1, ?_⟩
    intro expression member token within
    exact (writtenWords_eq_singleton_iff (solid expression member token within)).1
      ((each expression member).2 token within)

end Faithful

def NamesAreValued (module : Module) (arch : String) (type : ModuleType) : Prop :=
  ∀ expression ∈ module.applicableDepex arch type, ∀ token ∈ expression,
    token.written ∉ depexWords → token.value ∉ depexWords

instance (module : Module) : Decidable (module.NamesAreValued arch type) :=
  inferInstanceAs (Decidable (∀ expression ∈ module.applicableDepex arch type, ∀ token ∈ expression,
    token.written ∉ depexWords → token.value ∉ depexWords))

/-- The words of the text are those that the tokens are written with exactly if it can be read back. -/
theorem writtenWords_mergedDepexText_iff {store : RecordStore} {module : Module} {libraries : List Module}
    (resolved : ∀ m ∈ module :: libraries, m.ResolvedFrom store) (arch : String)
    (valued : ∀ m ∈ module :: libraries, m.NamesAreValued arch module.type) :
    let modules := module :: libraries
    let merged := (joinedDepex arch module.type modules).foldl joinTokens []
    (module.mergesDepex = false ∧ module.mergedDepex libraries arch = none ∧
      module.mergedDepexText libraries arch = none) ∨
    ∃ text, module.mergedDepex libraries arch = some (merged.map DepexToken.value) ∧
      module.mergedDepexText libraries arch = some text ∧
      (writtenWords text = merged.map DepexToken.written ↔ ReadsBack arch module.type modules) := by
  intro modules merged
  have faithful : ∀ m ∈ modules, ∀ expression ∈ m.applicableDepex arch module.type,
      ∀ token ∈ expression, IsFaithful token := by
    intro m listed expression applicable token within
    obtain ⟨_, _, filed, -⟩ := mem_applicableDepex.1 applicable
    have read := Catalog.isDepexRead_of_resolvedFrom (resolved m listed) _ (Table.mem_entries.2 filed)
    exact isFaithful_of_isRead (read token within) (valued m listed expression applicable token within)
  have joinedFaithful := faithful_of_mem_joinedDepex faithful
  cases merges : module.mergesDepex with
  | false => exact .inl ⟨rfl, by simp [mergedDepex, merges], by simp [mergedDepexText, merges]⟩
  | true =>
    have done : module.mergedDepexText libraries arch =
        some (joinModuleTexts arch module.type "" modules) := by
      rw [mergedDepexText, if_pos merges]
    have words := writtenWords_mergedDepexText done fun m listed expression applicable token within =>
      (faithful m listed expression applicable token within).solid
    refine .inr ⟨_, ?_, done, ?_⟩
    · rw [mergedDepex_eq, if_pos merges, map_value_foldl_joinTokens]
      rfl
    · rw [map_written_foldl_joinTokens joinedFaithful, readsBack_iff faithful]
      exact writtenWords_eq_joined_iff (isPrefix_writtenDepex faithful)
        (fun expression member token within => (joinedFaithful expression member token within).solid) words

end Image

section Symbols

def driverFile : SourcePath := .ofText "Mod.inf"

def libraryFile : SourcePath := .ofText "Lib.inf"

def symbolStore (symbol finish : String) : RecordStore :=
  let row (place : Section) (values : List String) : Section × Record := (place, { values })
  let package := [row .defines ["PACKAGE_NAME", "P"], row .defines ["PACKAGE_GUID", "0D3C7E1B"],
    row .protocols [symbol, "{0x5a1f}"], row .protocols ["gLibProtocolGuid", "{0x8e3b}"]]
  let driver := [row .defines ["INF_VERSION", "0x00010005"], row .defines ["BASE_NAME", "Mod"],
    row .defines ["MODULE_TYPE", "DXE_DRIVER"], row .packages ["P.dec"], row .depex [symbol ++ finish]]
  let library := [row .defines ["INF_VERSION", "0x00010005"], row .defines ["BASE_NAME", "Lib"],
    row .defines ["MODULE_TYPE", "BASE"], row .defines ["LIBRARY_CLASS", "Lib"], row .packages ["P.dec"],
    row .depex ["gLibProtocolGuid"]]
  { files := .ofList [(.ofText "P.dec", package), (driverFile, driver), (libraryFile, library)] }

def resolved? (store : RecordStore) (file : SourcePath) : Option Module :=
  ((resolve store (Catalog.module store) file "X64").run.run {}).1.toOption

theorem resolvedFrom_of_resolved? {store : RecordStore} {file : SourcePath} {module : Module}
    (found : resolved? store file = some module) : module.ResolvedFrom store := by
  rw [resolved?] at found
  rcases ran : (resolve store (Catalog.module store) file "X64").run.run {} with ⟨_ | other, after⟩
  · rw [ran] at found
    cases found
  · rw [ran] at found
    obtain rfl := Option.some.inj found
    exact ⟨_, file, "X64", {}, after, ran⟩

theorem exists_resolved {store : RecordStore} {p : Module → Module → Prop} [∀ a b, Decidable (p a b)]
    (shown : ((resolved? store driverFile).bind fun driver =>
      (resolved? store libraryFile).map fun library => decide (p driver library)) = some true) :
    ∃ driver library, (∀ m ∈ [driver, library], m.ResolvedFrom store) ∧ p driver library := by
  obtain ⟨driver, driverFound, shown⟩ := Option.bind_eq_some_iff.1 shown
  obtain ⟨library, libraryFound, holds⟩ := Option.map_eq_some_iff.1 shown
  refine ⟨driver, library, ?_, of_decide_eq_true holds⟩
  simp [resolvedFrom_of_resolved? driverFound, resolvedFrom_of_resolved? libraryFound]

theorem writtenWords_mergedDepexText_plainSymbol :
    ∃ (driver library : Module) (text : String),
      (∀ m ∈ [driver, library], m.ResolvedFrom (symbolStore "gTestProtocolGuid" " END")) ∧
      (∀ m ∈ [driver, library], m.NamesAreValued "X64" driver.type) ∧
      driver.mergedDepex [library] "X64" = some ["(", "{0x5a1f}", ")", "AND", "(", "{0x8e3b}", ")"] ∧
      driver.mergedDepexText [library] "X64" = some text ∧
      writtenWords text = ["(", "gTestProtocolGuid", ")", "AND", "(", "gLibProtocolGuid", ")"] := by
  obtain ⟨driver, library, resolved, merges, valued, merged, reads⟩ : ∃ driver library : Module,
      (∀ m ∈ [driver, library], m.ResolvedFrom (symbolStore "gTestProtocolGuid" " END")) ∧
      driver.mergesDepex = true ∧
      (∀ m ∈ [driver, library], m.NamesAreValued "X64" driver.type) ∧
      (joinedDepex "X64" driver.type [driver, library]).foldl joinTokens [] =
        [⟨"(", "("⟩, ⟨"gTestProtocolGuid", "{0x5a1f}"⟩, ⟨")", ")"⟩, ⟨"AND", "AND"⟩, ⟨"(", "("⟩,
          ⟨"gLibProtocolGuid", "{0x8e3b}"⟩, ⟨")", ")"⟩] ∧
      ReadsBack "X64" driver.type [driver, library] :=
    exists_resolved (by decide +kernel)
  rcases writtenWords_mergedDepexText_iff resolved "X64" valued with ⟨none, -⟩ | ⟨text, tokens, done, exactly⟩
  · rw [merges] at none
    cases none
  · rw [merged] at tokens exactly
    exact ⟨driver, library, text, resolved, valued, tokens, done, exactly.2 reads⟩

/-- The text stops where a symbol has the word for an ordering in its name, and no words that stand for
the tokens are there. It drops the last letters of a symbol that ends in `END`. -/
theorem mergedDepexText_nameWithin :
    (∃ (driver library : Module) (text : String),
      (∀ m ∈ [driver, library], m.ResolvedFrom (symbolStore "gTestBEFOREGuid" "")) ∧
      driver.mergedDepex [library] "X64" = some ["(", "{0x5a1f}", ")", "AND", "(", "{0x8e3b}", ")"] ∧
      driver.mergedDepexText [library] "X64" = some text ∧
      ∀ replace : String → String, (writtenWords text).map replace ≠
        ["(", "{0x5a1f}", ")", "AND", "(", "{0x8e3b}", ")"]) ∧
    ∃ (driver library : Module) (text : String),
      (∀ m ∈ [driver, library], m.ResolvedFrom (symbolStore "gLEGEND" "")) ∧
      driver.mergedDepex [library] "X64" = some ["(", "{0x5a1f}", ")", "AND", "(", "{0x8e3b}", ")"] ∧
      driver.mergedDepexText [library] "X64" = some text ∧
      "gLEG" ∈ writtenWords text ∧ depexSymbol? driver.packagesOf "gLEG" = none := by
  constructor
  · obtain ⟨driver, library, resolved, tokens, text⟩ : ∃ driver library : Module,
        (∀ m ∈ [driver, library], m.ResolvedFrom (symbolStore "gTestBEFOREGuid" "")) ∧
        driver.mergedDepex [library] "X64" = some ["(", "{0x5a1f}", ")", "AND", "(", "{0x8e3b}", ")"] ∧
        driver.mergedDepexText [library] "X64" = some "(gTestBEFOREGuid)" :=
      exists_resolved (by decide +kernel)
    refine ⟨driver, library, _, resolved, tokens, text, fun replace same => ?_⟩
    have lengths := congrArg List.length same
    rw [List.length_map] at lengths
    revert lengths
    decide
  · obtain ⟨driver, library, resolved, tokens, text, unknown⟩ : ∃ driver library : Module,
        (∀ m ∈ [driver, library], m.ResolvedFrom (symbolStore "gLEGEND" "")) ∧
        driver.mergedDepex [library] "X64" = some ["(", "{0x5a1f}", ")", "AND", "(", "{0x8e3b}", ")"] ∧
        driver.mergedDepexText [library] "X64" = some "(gLEG) AND (gLibProtocolGuid)" ∧
        depexSymbol? driver.packagesOf "gLEG" = none :=
      exists_resolved (by decide +kernel)
    exact ⟨driver, library, _, resolved, tokens, text, by decide, unknown⟩

end Symbols

end UefiBuild.Module
