import UefiBuild.Proofs.Package.Declarations
import UefiBuild.Proofs.Package.Tokens
import UefiBuild.Proofs.Workspace.Kept

namespace UefiBuild

open BuildStep (Reads Fails)

namespace Workspace

def DependsOn (workspace : Workspace) (state : BuildState) (platform : PlatformContext)
    (packages : List (Shared Package)) : Prop :=
  Reads (workspace.packageList platform.arch) state (.ok packages)

section Verdicts

variable {workspace : Workspace} {state : BuildState} {platforms : List PlatformContext}

theorem DependsOn.exists_iff {platform : PlatformContext} {packages : List (Shared Package)}
    (depends : workspace.DependsOn state platform packages) {holds : List (Shared Package) → Prop} :
    (∃ others, workspace.DependsOn state platform others ∧ holds others) ↔ holds packages := by
  refine ⟨?_, fun held => ⟨packages, depends, held⟩⟩
  rintro ⟨others, again, held⟩
  rwa [Except.ok.inj (depends.unique again)]

variable (found : ∀ platform ∈ platforms, ∃ packages, workspace.DependsOn state platform packages)
include found

theorem fails_forM_packages_iff {check : PlatformContext → List (Shared Package) → Build PUnit}
    {result : PlatformContext → List (Shared Package) → Checked PUnit}
    (reads : ∀ platform packages, Reads (check platform packages) state (result platform packages)) :
    Fails (platforms.forM fun platform => workspace.packageList platform.arch >>= check platform) state ↔
      ∃ platform ∈ platforms, ∃ packages, workspace.DependsOn state platform packages ∧
        Checked.Fails (result platform packages) := by
  choose! packages depends using found
  have all : Reads (platforms.forM fun platform => workspace.packageList platform.arch >>= check platform)
      state (platforms.forM fun platform => result platform (packages platform)) :=
    .forM fun platform listed => (depends platform listed).bind_ok (reads platform (packages platform))
  rw [all.fails_iff, Checked.fails_forM_iff]
  refine exists_congr fun platform => and_congr_right fun listed => ?_
  rw [(depends platform listed).exists_iff]

theorem fails_checkTokenValues_iff :
    Fails (workspace.checkTokenValues platforms) state ↔
      ∃ platform ∈ platforms, ∃ packages, workspace.DependsOn state platform packages ∧
        ∃ package ∈ packages, Checked.Fails package.value.checkTokens := by
  have verdict := fails_forM_packages_iff found fun _ packages =>
    Reads.forM fun package (_ : package ∈ packages) => .ofChecked package.value.checkTokens state
  simp only [Checked.fails_forM_iff] at verdict
  exact verdict

theorem fails_checkAccess_iff :
    Fails (workspace.checkAccess platforms) state ↔
      ∃ platform ∈ platforms, ∃ packages, workspace.DependsOn state platform packages ∧
        Checked.Fails (undeclaredPcds platform.data (packages.map Shared.value)) := by
  choose! packages depends using found
  let undeclared (platform : PlatformContext) : Checked (List (PcdId × String)) := do
    let ids ← undeclaredPcds platform.data ((packages platform).map Shared.value)
    return ids.map (·, platform.arch)
  have reads : Reads (platforms.mapM fun platform => do
      let packages ← workspace.packageList platform.arch
      let ids ← .ofChecked (undeclaredPcds platform.data (packages.map Shared.value))
      return ids.map (·, platform.arch)) state (platforms.mapM undeclared) :=
    .mapM fun platform listed => (depends platform listed).bind_ok
      ((Reads.ofChecked _ state).bind fun _ _ => .pure _ state)
  unfold checkAccess
  rw [BuildStep.fails_bind_iff_of_safe, reads.fails_iff, Checked.fails_mapM_iff]
  · refine exists_congr fun platform => and_congr_right fun listed => ?_
    rw [(depends platform listed).exists_iff]
    simp only [undeclared, bind_pure_comp, Checked.fails_map_iff]
  -- What comes after the search only points out what it has found.
  · intro unused after
    refine BuildStep.not_fails_forM (fun entry state => ?_) _ after
    exact Checked.not_fails_ok ()

def refuse (workspace : Workspace) (holds : PlatformContext → List (Shared Package) → Prop)
    [∀ platform packages, Decidable (holds platform packages)] (platforms : List PlatformContext) :
    Build PUnit :=
  platforms.forM fun platform => do
    let packages ← workspace.packageList platform.arch
    .ofChecked (if holds platform packages then .error (.of .pcdSettings) else .ok ())

theorem fails_refuse_iff {holds : PlatformContext → List (Shared Package) → Prop}
    [∀ platform packages, Decidable (holds platform packages)] :
    Fails (workspace.refuse holds platforms) state ↔
      ∃ platform ∈ platforms, ∃ packages, workspace.DependsOn state platform packages ∧
        holds platform packages := by
  have verdict := fails_forM_packages_iff found fun platform packages =>
    Reads.ofChecked (if holds platform packages then .error (.of .pcdSettings) else .ok ()) state
  simp only [Checked.fails_ite_iff] at verdict
  exact verdict

end Verdicts

/-- Looks at the platforms when they have been collected. -/
def collecting (workspace : Workspace) (tool : OffsetTool) (look : List PlatformContext → Build PUnit) :
    Build PUnit := do
  let (platforms, _) ← workspace.collectPlatforms tool {} workspace.config.arches
  look (platforms.map Shared.value)

def Collects (workspace : Workspace) (tool : OffsetTool) (disk : Disk) (platforms : List PlatformContext)
    (state : BuildState) : Prop :=
  ∃ shared layout, platforms = shared.map Shared.value ∧
    (workspace.collectPlatforms tool {} workspace.config.arches).run.run { disk } =
      (.ok (shared, layout), state)

section Collects

variable {workspace : Workspace} {tool : OffsetTool} {disk : Disk} {platforms : List PlatformContext}
  {state : BuildState}

theorem exists_collects {look : List PlatformContext → Build PUnit}
    (quiet : ¬ Fails (workspace.collecting tool look) { disk }) :
    ∃ platforms state, workspace.Collects tool disk platforms state := by
  obtain ⟨⟨shared, layout⟩, state, ran⟩ := BuildStep.exists_run_of_not_fails fun failed => quiet failed.bind
  exact ⟨_, state, shared, layout, rfl, ran⟩

theorem Collects.fails_iff (collects : workspace.Collects tool disk platforms state)
    (look : List PlatformContext → Build PUnit) :
    Fails (workspace.collecting tool look) { disk } ↔ Fails (look platforms) state := by
  obtain ⟨shared, layout, rfl, ran⟩ := collects
  exact BuildStep.fails_bind_iff_of_run ran

theorem Collects.dependsOn (collects : workspace.Collects tool disk platforms state) :
    ∀ platform ∈ platforms, ∃ packages, workspace.DependsOn state platform packages := by
  obtain ⟨shared, layout, rfl, ran⟩ := collects
  intro context listed
  obtain ⟨platform, kept, rfl⟩ := List.mem_map.1 listed
  exact (ends_collectPlatforms (workspace.sound_fresh disk) _ _ ran platform kept).reads_packageList

/-- Once the platforms have been collected, the token values are refused exactly if two declarations of a
package that one of the platforms depends on clash, in whatever order packages declare their items. -/
theorem checkTokenValues_fails_iff_clash (collects : workspace.Collects tool disk platforms state) :
    (Fails (workspace.checkTokenValues platforms) state ↔
      ∃ platform ∈ platforms, ∃ packages, workspace.DependsOn state platform packages ∧
        ∃ package ∈ packages, ∃ a ∈ package.value.pcds.values, ∃ b ∈ package.value.pcds.values,
          Package.Clash a b) ∧
    ∀ reorder : Package → Package,
      (∀ package, (reorder package).pcds.values.Perm package.pcds.values) →
        (Fails (workspace.checkTokenValues platforms) state ↔
          ∃ platform ∈ platforms, ∃ packages, workspace.DependsOn state platform packages ∧
            ∃ package ∈ packages, Checked.Fails (reorder package.value).checkTokens) := by
  have verdict := fails_checkTokenValues_iff collects.dependsOn
  refine ⟨by simpa only [Package.fails_checkTokens_iff] using verdict, fun reorder same => ?_⟩
  simpa only [Package.fails_checkTokens_iff, (same _).mem_iff] using verdict

end Collects

def declaringWorkspace (packages : List (String × List (Section × Record)))
    (settings : List (Section × Record)) : Workspace :=
  let row (place : Section) (values : List String) : Section × Record := (place, { values })
  let platform := [
    row .defines ["PLATFORM_NAME", "P"],
    row .defines ["PLATFORM_GUID", "G"],
    row .components ["App.inf"]]
  let package (rows : List (Section × Record)) := [
    row .defines ["PACKAGE_NAME", "P"],
    row .defines ["PACKAGE_GUID", "G"],
    row .guids ["S", "0"]] ++ rows
  let module := [
    row .defines ["INF_VERSION", "0x00010005"],
    row .defines ["BASE_NAME", "App"],
    row .defines ["MODULE_TYPE", "UEFI_APPLICATION"]] ++
    packages.map fun (file, _) => row .packages [file]
  { store := { files := .ofList ([(.ofText "P.dsc", platform ++ settings), (.ofText "App.inf", module)] ++
      packages.map fun (file, rows) => (.ofText file, package rows)) }
    config := {
      workspace := ⟨"ws"⟩
      platform := .ofText "P.dsc"
      target := "DEBUG"
      toolchain := "GCC5"
      arches := ["X64"]
      tools := ⟨.ofList [("*_*_*_MAKE_PATH", "make")]⟩ } }

def twoSpellings : Workspace :=
  declaringWorkspace [("P.dec", [
    (.pcds .fixedAtBuild, { values := ["S", "A", "0|UINT8|0x00000001"] }),
    (.pcds .fixedAtBuild, { values := ["S", "B", "0|UINT8|1"] })])] []

theorem checkTokenValues_twoSpellings :
    ∃ platforms state, twoSpellings.Collects .idle {} platforms state ∧
      Fails (twoSpellings.checkTokenValues platforms) state ∧
      ∃ platform ∈ platforms, ∃ packages, twoSpellings.DependsOn state platform packages ∧
        ∃ package ∈ packages, Checked.Fails package.value.reversed.checkTokens := by
  let clashes (_ : PlatformContext) (packages : List (Shared Package)) : Prop :=
    ∃ package ∈ packages, ∃ a ∈ package.value.pcds.values, ∃ b ∈ package.value.pcds.values,
      Package.Clash a b
  have collected : ¬ Fails (twoSpellings.collecting .idle fun _ => pure ()) {} := by decide +kernel
  have clash : Fails (twoSpellings.collecting .idle (twoSpellings.refuse clashes)) {} := by
    decide +kernel
  obtain ⟨platforms, state, collects⟩ := exists_collects collected
  obtain ⟨verdict, reordered⟩ := checkTokenValues_fails_iff_clash collects
  have failed := verdict.2 ((fails_refuse_iff collects.dependsOn).1 ((collects.fails_iff _).1 clash))
  exact ⟨platforms, state, collects, failed,
    (reordered Package.reversed Package.perm_values_reversed).1 failed⟩

/-- Once the platforms have been collected, what they say of items is refused exactly if packages declare
one of the items, and none of them for its use, or one only after another has declared it otherwise. -/
theorem checkAccess_fails_iff_declared {workspace : Workspace} {tool : OffsetTool} {disk : Disk}
    {platforms : List PlatformContext} {state : BuildState}
    (collects : workspace.Collects tool disk platforms state) :
    Fails (workspace.checkAccess platforms) state ↔
      ∃ platform ∈ platforms, ∃ packages, workspace.DependsOn state platform packages ∧
        ∃ id used, platform.data.Uses id used ∧
          (DeclaredOtherwise (packages.map Shared.value) id used ∨
            DeclaredTooLate (packages.map Shared.value) id used) := by
  simpa only [fails_undeclaredPcds_iff] using fails_checkAccess_iff collects.dependsOn

def twoDeclarations (files : List String) : Workspace :=
  let setting : Record := { values := ["S", "Mode", "1|UINT8|1"] }
  declaringWorkspace
    (files.map fun file =>
      (file, [(.pcds (if file = "Fixed.dec" then .fixedAtBuild else .dynamic), setting)]))
    [(.pcds .dynamicDefault, { values := ["S", "Mode", "2"] })]

def fixedFirst : Workspace := twoDeclarations ["Fixed.dec", "Dynamic.dec"]

def dynamicFirst : Workspace := twoDeclarations ["Dynamic.dec", "Fixed.dec"]

theorem fails_checkAccess_fixedFirst :
    ∃ platforms state, fixedFirst.Collects .idle {} platforms state ∧
      Fails (fixedFirst.checkAccess platforms) state ∧
      ¬ ∃ platform ∈ platforms, ∃ packages, fixedFirst.DependsOn state platform packages ∧
        ∃ id used, platform.data.Uses id used ∧
          DeclaredOtherwise (packages.map Shared.value) id used := by
  let otherwise (platform : PlatformContext) (packages : List (Shared Package)) : Prop :=
    ∃ id used, platform.data.Uses id used ∧ DeclaredOtherwise (packages.map Shared.value) id used
  have none : ¬ Fails (fixedFirst.collecting .idle (fixedFirst.refuse otherwise)) {} := by
    decide +kernel
  have refused : Fails (fixedFirst.collecting .idle fixedFirst.checkAccess) {} := by decide +kernel
  obtain ⟨platforms, state, collects⟩ := exists_collects none
  refine ⟨platforms, state, collects, (collects.fails_iff _).1 refused, fun declared => none ?_⟩
  exact (collects.fails_iff _).2 ((fails_refuse_iff collects.dependsOn).2 declared)

theorem checkAccess_fails_iff_fixedFirst :
    ∃ platforms state, fixedFirst.Collects .idle {} platforms state ∧
      ∃ platform ∈ platforms, ∃ packages, fixedFirst.DependsOn state platform packages ∧
        ∃ id used, platform.data.Uses id used ∧ DeclaredTooLate (packages.map Shared.value) id used := by
  obtain ⟨platforms, state, collects, failed, none⟩ := fails_checkAccess_fixedFirst
  obtain ⟨platform, listed, packages, depends, id, used, uses, otherwise | late⟩ :=
    (checkAccess_fails_iff_declared collects).1 failed
  · exact absurd ⟨platform, listed, packages, depends, id, used, uses, otherwise⟩ none
  · exact ⟨platforms, state, collects, platform, listed, packages, depends, id, used, uses, late⟩

/-- An item is refused although one of the packages declares it for its use. With the packages in the
other order it is not. -/
theorem checkAccess_depends_on_order :
    (∃ platforms state, fixedFirst.Collects .idle {} platforms state ∧
      Fails (fixedFirst.checkAccess platforms) state ∧
      ¬ ∃ platform ∈ platforms, ∃ packages, fixedFirst.DependsOn state platform packages ∧
        ∃ id used, platform.data.Uses id used ∧
          DeclaredOtherwise (packages.map Shared.value) id used) ∧
    ∃ platforms state, dynamicFirst.Collects .idle {} platforms state ∧
      ¬ Fails (dynamicFirst.checkAccess platforms) state := by
  refine ⟨fails_checkAccess_fixedFirst, ?_⟩
  have passes : ¬ Fails (dynamicFirst.collecting .idle dynamicFirst.checkAccess) {} := by
    decide +kernel
  obtain ⟨platforms, state, collects⟩ := exists_collects passes
  exact ⟨platforms, state, collects, fun failed => passes ((collects.fails_iff _).2 failed)⟩

end Workspace

end UefiBuild
