import UefiBuild.Proofs.Pcd.Placeholder
import UefiBuild.Proofs.Text.Words

namespace UefiBuild

namespace OffsetFile

def decides (line : String) : Bool :=
  match readRow line with
  | .ok (some (_, offset)) => offset ≠ auto
  | _ => true

/-- Where there is a map, it chooses each offset. -/
def DecidedAt (disk : Disk) (map : HostPath) : Prop :=
  ∀ text, disk.read map = .ok text → ∀ line ∈ Text.lines text, decides line

def Concrete (file : OffsetFile) : Prop :=
  ∀ id offsets, file.assigned.get? id = some offsets → auto ∉ offsets

theorem Concrete.assign {file : OffsetFile} (concrete : file.Concrete) (id : PcdId) {offset : String}
    (chosen : offset ≠ auto) : (file.assign id offset).Concrete := by
  intro other offsets found
  rw [OffsetFile.assign, Table.get?_update] at found
  split at found
  · obtain rfl := Option.some.inj found
    have earlier : auto ∉ (file.assigned.get? id).getD [] := by
      cases old : file.assigned.get? id with
      | none => simp
      | some offsets => exact concrete id offsets old
    simp [earlier, Ne.symm chosen]
  · exact concrete other offsets found

theorem Concrete.readRows {file : OffsetFile} (concrete : file.Concrete) (source : SourcePath)
    (number : Nat) {lines : List String} (decided : ∀ line ∈ lines, decides line) :
    (file.readRows source number lines).1.Concrete := by
  induction lines generalizing file number with
  | nil => exact concrete
  | cons line rest ih =>
    have later := fun other (member : other ∈ rest) => decided other (List.mem_cons_of_mem line member)
    unfold OffsetFile.readRows
    split
    · exact concrete
    · exact ih concrete _ later
    · rename_i id offset row
      have chosen := decided line (by simp)
      simp only [decides, row, decide_eq_true_eq] at chosen
      exact ih (concrete.assign id chosen) _ later

theorem Concrete.readFrom {file : OffsetFile} (concrete : file.Concrete) {disk : Disk} {path : HostPath}
    (decided : DecidedAt disk path) : (file.readFrom disk path).1.Concrete := by
  unfold OffsetFile.readFrom
  split
  · rename_i text found
    exact concrete.readRows _ _ (decided text found)
  · exact concrete

theorem Concrete.offset?_ne {file : OffsetFile} (concrete : file.Concrete) {id : PcdId} {index : Nat}
    {offset : String} (given : file.offset? id index = some offset) : offset ≠ auto := by
  obtain ⟨offsets, found, there⟩ := Option.bind_eq_some_iff.1 given
  exact ne_of_mem_of_not_mem (List.mem_of_getElem? there) (concrete id offsets found)

end OffsetFile

namespace OffsetStage

theorem trim_auto : Text.trim OffsetFile.auto = OffsetFile.auto := by decide

theorem auto_not_mem_assignOffsets {file : OffsetFile} (concrete : file.Concrete) {map : SourcePath}
    {pcd placed : Pcd} (ok : assignOffsets file map pcd = .ok placed) :
    OffsetFile.auto ∉ placed.offsets := by
  obtain ⟨skus, given, ok⟩ := Checked.bind_eq_ok.1 ok
  obtain rfl := Checked.pure_eq_ok.1 ok
  intro auto
  obtain ⟨sku, known, same⟩ := List.mem_map.1 auto
  obtain ⟨entry, found, rfl⟩ := List.mem_map.1 known
  obtain ⟨⟨⟨name, old⟩, index⟩, -, step⟩ := Checked.exists_of_mem_mapM given (Table.mem_ofList found)
  dsimp only at step
  split at step
  · rename_i settled
    obtain rfl := Checked.pure_eq_ok.1 step
    exact settled ((congrArg Text.trim same).trans trim_auto)
  · split at step
    · rename_i offset chosen
      obtain rfl := Checked.pure_eq_ok.1 step
      exact concrete.offset?_ne chosen same
    · cases step

end OffsetStage

/-- A tool that succeeds has chosen an offset in each row of the map beside the file it was given. -/
def OffsetTool.IsConcrete (tool : OffsetTool) : Prop :=
  ∀ path base disk after, tool.run path ⟨base ++ ".txt"⟩ disk = (.ok (), after) →
    OffsetFile.DecidedAt after ⟨base ++ ".map"⟩

/-- The tool with a look at the map that it has written. It fails if an offset is left open there. -/
def OffsetTool.checked (tool : OffsetTool) : OffsetTool where
  run path input disk :=
    let (result, after) := tool.run path input disk
    match (Text.beforeEnd? ".txt" input.text).map fun base => after.read ⟨base ++ ".map"⟩ with
    | some (.ok text) =>
      if (Text.lines text).all OffsetFile.decides then (result, after)
      else (.error (.of (.offsetToolFailed path)), after)
    | _ => (result, after)

theorem OffsetTool.isConcrete_checked (tool : OffsetTool) : tool.checked.IsConcrete := by
  intro path base disk after ran text read
  rcases given : tool.run path ⟨base ++ ".txt"⟩ disk with ⟨result, left⟩
  simp only [checked, given, Text.beforeEnd?_append, Option.map_some] at ran
  have same : left = after := by
    split at ran
    · split at ran <;> exact (Prod.mk.inj ran).2
    · exact (Prod.mk.inj ran).2
  rw [same, read] at ran
  dsimp only at ran
  split at ran
  · rename_i decided
    exact List.all_eq_true.1 decided
  · cases ran

theorem HostPath.join_append (folder : HostPath) (name : String) : ∃ base,
    folder.join (name ++ ".txt") = ⟨base ++ ".txt"⟩ ∧ folder.join (name ++ ".map") = ⟨base ++ ".map"⟩ := by
  have same : Text.startsWith "/" (name ++ ".txt") = Text.startsWith "/" (name ++ ".map") := by
    cases letters : name.toList with
    | nil => simp [Text.startsWith, Text.dropStart?, letters]
    | cons first rest =>
      simp only [Text.startsWith, Text.dropStart?, String.toList_append, letters, List.cons_append,
        String.reduceToList]
      split <;> rfl
  unfold join
  rw [same]
  split
  · exact ⟨name, rfl, rfl⟩
  · split
    · exact ⟨folder.text ++ name, by rw [String.append_assoc], by rw [String.append_assoc]⟩
    · refine ⟨folder.text ++ "/" ++ name, ?_, ?_⟩ <;> simp only [String.append_assoc]

end UefiBuild
