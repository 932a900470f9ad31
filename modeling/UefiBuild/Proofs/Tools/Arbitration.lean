import UefiBuild.Proofs.Options.Accepted
import UefiBuild.Tools.Report

namespace UefiBuild.ToolReport

variable {table : ToolTable} {target toolchain arch : String} {options : BuildOptions}

theorem length_of_readOption {text : String} {option : OptionId × String}
    (read : readOption text = .ok option) : (Text.split '_' option.1.key).length = 5 := by
  unfold readOption at read
  split at read
  · cases read
  · dsimp only at read
    split at read
    · rename_i five
      obtain rfl := Except.ok.inj read
      exact five
    · cases read

theorem length_of_mem_readOptions {texts : List String} {given : List (OptionId × String)}
    (read : texts.mapM readOption = .ok given) {id : OptionId} (listed : id ∈ (Table.ofList given).keys) :
    (Text.split '_' id.key).length = 5 := by
  obtain ⟨option, member, rfl⟩ := List.mem_map.1 listed
  obtain ⟨text, -, here⟩ := Checked.exists_of_mem_mapM read (Table.mem_ofList member)
  exact length_of_readOption here

theorem isEmpty_foldl_update (tools : ToolOptions) (entries : List ((String × String) × String)) :
    (entries.foldl (fun (tools : ToolOptions) ((tool, attr), value) =>
      tools.update tool fun attributes => (attributes.getD ∅).insert attr value) tools).isEmpty =
      (tools.isEmpty && entries.isEmpty) := by
  induction entries generalizing tools with
  | nil => simp
  | cons entry rest ih =>
    obtain ⟨⟨tool, attr⟩, value⟩ := entry
    have member : tool ∈ (tools.update tool fun attributes => (attributes.getD ∅).insert attr value).keys := by
      simp [Table.mem_keys, Table.get?_update]
    have filled := List.isEmpty_eq_false_iff.2 fun empty => List.ne_nil_of_mem member (List.map_eq_nil_iff.2 empty)
    rw [List.foldl_cons, ih]
    simp [Table.isEmpty, filled]

theorem make_eq_error_iff {fault : ReportFault}
    (readable : ∀ id ∈ options.keys, (Text.split '_' id.key).length = 5) :
    make table target toolchain arch options = .error fault ↔
      (table.entriesFor target toolchain arch).isEmpty ∧ fault = .noTools target toolchain arch := by
  unfold make
  simp only [isEmpty_foldl_update]
  generalize (List.foldl _ ∅ (table.entriesFor target toolchain arch).entries : ToolOptions) = tools
  split
  · rename_i none
    have empty : (table.entriesFor target toolchain arch).isEmpty := (Bool.and_eq_true_iff.1 none).2
    rw [and_iff_right empty]
    exact ⟨fun failed => (Except.error.inj failed).symm, fun same => same ▸ rfl⟩
  · rename_i filled
    refine iff_of_false ?_ fun none => filled (Bool.and_eq_true_iff.2 ⟨rfl, none.1⟩)
    split
    · nofun
    · cases expanded : OptionContext.expand _ options with
      | ok expanded => nofun
      | error failure =>
        obtain ⟨id, listed, malformed⟩ := OptionContext.fails_expand_iff.1 ⟨failure, expanded⟩
        exact absurd (readable id listed) malformed

/-- Expanding fails exactly where some key does not have its five fields, and the options of a report, which
are read from texts, all have them. -/
theorem arbitration_fails_iff_malformed :
    (∀ (context : OptionContext) (options : BuildOptions),
      Checked.Fails (context.expand options) ↔ ∃ id ∈ options.keys, (Text.split '_' id.key).length ≠ 5) ∧
    ∀ (table : ToolTable) (target toolchain arch : String) (texts : List String)
      (given : List (OptionId × String)), texts.mapM readOption = .ok given →
      ∀ fault, make table target toolchain arch (.ofList given) = .error fault ↔
        (table.entriesFor target toolchain arch).isEmpty ∧ fault = .noTools target toolchain arch :=
  ⟨fun _ _ => OptionContext.fails_expand_iff,
    fun _ _ _ _ _ _ read _ => make_eq_error_iff fun _ listed => length_of_mem_readOptions read listed⟩

theorem arbitration_fails_iff_malformed_replaced :
    let table : ToolTable := ⟨.ofList [("*_GCC5_*_*_FAMILY", "GCC"), ("*_GCC5_X64_CC_PATH", "gcc")]⟩
    let texts := ["GCC : *_*_X64_CC_FLAGS = -O0", "*_*_*_CC_FLAGS==-O2 "]
    let given : List (OptionId × String) :=
      [(⟨"GCC", "*_*_X64_CC_FLAGS"⟩, "-O0"), (⟨"", "*_*_*_CC_FLAGS"⟩, "=-O2")]
    let long : OptionId := ⟨"MSFT", "*_*_*_CC_FLAGS_"⟩
    texts.mapM readOption = .ok given ∧
      (∀ fault, make table "DEBUG" "GCC5" "X64" (.ofList given) ≠ .error fault) ∧
      Checked.Fails (OptionContext.compilerContext.expand (.ofList (given ++ [(long, "/W4")]))) := by
  intro table texts given long
  have read : texts.mapM readOption = .ok given := by cbv
  have named : (table.entriesFor "DEBUG" "GCC5" "X64").isEmpty = false := by decide +kernel
  obtain ⟨expanding, reporting⟩ := arbitration_fails_iff_malformed
  refine ⟨read, fun fault failed => ?_, ?_⟩
  · have empty := ((reporting table "DEBUG" "GCC5" "X64" texts given read fault).1 failed).1
    rw [named] at empty
    cases empty
  · exact (expanding _ _).2 ⟨long, by decide +kernel, by decide +kernel⟩

end UefiBuild.ToolReport
