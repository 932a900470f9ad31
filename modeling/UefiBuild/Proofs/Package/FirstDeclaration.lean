import UefiBuild.Module.Pcds
import UefiBuild.Proofs.Package.Declarations

namespace UefiBuild

namespace Package

variable {package : Package} {id : PcdId} {part : PcdSection} {access : Access} {declared : Pcd}

/-- A package declares an item for a section. The general dynamic section is content with every access
and takes the first of them that the package gives the item, the other sections ask for their own. -/
inductive DeclaresIn (package : Package) (id : PcdId) : PcdSection → Access → Pcd → Prop
  | own {part : PcdSection} {declared : Pcd} (special : part ≠ .dynamic)
      (found : package.pcd? id part.access = some declared) : DeclaresIn package id part part.access declared
  | lowest {access : Access} {declared : Pcd} {lower higher : List Access}
      (order : Access.declarable = lower ++ access :: higher)
      (least : ∀ other ∈ lower, package.pcd? id other = none)
      (found : package.pcd? id access = some declared) : DeclaresIn package id .dynamic access declared

theorem lowestAccess?_eq_some_iff :
    package.lowestAccess? id = some access ↔
      (package.pcd? id access).isSome ∧ ∃ lower higher, Access.declarable = lower ++ access :: higher ∧
        ∀ other ∈ lower, package.pcd? id other = none := by
  simp [lowestAccess?, List.find?_eq_some_iff_append]

theorem declaresIn_iff :
    package.DeclaresIn id part access declared ↔
      Module.accessIn part id package = access ∧ package.pcd? id access = some declared := by
  constructor
  · rintro (⟨special, found⟩ | ⟨order, least, found⟩)
    · exact ⟨if_neg special, found⟩
    · have lowest := lowestAccess?_eq_some_iff.2 ⟨Option.isSome_of_eq_some found, _, _, order, least⟩
      exact ⟨by rw [Module.accessIn, if_pos rfl, lowest, Option.getD_some], found⟩
  · rintro ⟨rfl, found⟩
    by_cases general : part = .dynamic
    · subst general
      cases lowest : package.lowestAccess? id with
      | some access =>
        have same : Module.accessIn .dynamic id package = access := by
          rw [Module.accessIn, if_pos rfl, lowest, Option.getD_some]
        obtain ⟨-, lower, higher, order, least⟩ := lowestAccess?_eq_some_iff.1 lowest
        exact same ▸ .lowest order least (same ▸ found)
      | none =>
        -- The access that stands in for a missing one is itself among those that were looked for.
        rw [Module.accessIn, if_pos rfl, lowest, Option.getD_none] at found
        have declares : package.Declares id := ⟨.dynamic, by decide, Option.isSome_of_eq_some found⟩
        rw [← isSome_lowestAccess?_iff, lowest] at declares
        cases declares
    · have same : Module.accessIn part id package = part.access := if_neg general
      rw [same] at found ⊢
      exact .own general found

theorem mem_declaredAccess : access ∈ package.declaredAccess id ↔ (package.pcd? id access).isSome := by
  rw [pcd?, ← Table.mem_keys, declaredAccess]
  simp

end Package

namespace Module

variable {packages : List Package} {part : PcdSection} {id : PcdId} {package : Package} {access : Access}
  {declared : Pcd}

def FirstDeclaration (packages : List Package) (part : PcdSection) (id : PcdId) (package : Package)
    (access : Access) (declared : Pcd) : Prop :=
  ∃ earlier later, packages = earlier ++ package :: later ∧ package.DeclaresIn id part access declared ∧
    ∀ other ∈ earlier, ∀ access declared, ¬ other.DeclaresIn id part access declared

def FirstMention (packages : List Package) (id : PcdId) (package : Package) (access : Access) : Prop :=
  ∃ earlier later, packages = earlier ++ package :: later ∧
    (package.declaredAccess id).head? = some access ∧ ∀ other ∈ earlier, ∀ access, other.pcd? id access = none

theorem not_declaresIn_iff :
    (∀ access declared, ¬ package.DeclaresIn id part access declared) ↔
      package.pcd? id (accessIn part id package) = none := by
  simp only [Package.declaresIn_iff, not_and, Option.eq_none_iff_forall_ne_some]
  exact forall_comm.trans (by simp)

theorem declaration?_eq_some_iff :
    declaration? packages part id = some (package, access, declared) ↔
      FirstDeclaration packages part id package access declared := by
  unfold declaration? FirstDeclaration
  simp only [not_declaresIn_iff]
  simp only [Package.declaresIn_iff, List.findSome?_eq_some_iff, Option.map_eq_none_iff,
    Option.map_eq_some_iff, Prod.mk.injEq]
  constructor
  · rintro ⟨earlier, _, later, rfl, ⟨_, found, rfl, rfl, rfl⟩, misses⟩
    exact ⟨earlier, later, rfl, ⟨rfl, found⟩, misses⟩
  · rintro ⟨earlier, later, rfl, ⟨rfl, found⟩, misses⟩
    exact ⟨earlier, package, later, rfl, ⟨declared, found, rfl, rfl, rfl⟩, misses⟩

theorem declaration?_eq_none_iff :
    declaration? packages part id = none ↔
      ∀ package ∈ packages, ∀ access declared, ¬ package.DeclaresIn id part access declared := by
  simp only [not_declaresIn_iff, declaration?, List.findSome?_eq_none_iff, Option.map_eq_none_iff]

theorem head?_declaredAccess_eq_none_iff :
    (package.declaredAccess id).head? = none ↔ ∀ access, package.pcd? id access = none := by
  rw [List.head?_eq_none_iff, List.eq_nil_iff_forall_not_mem]
  simp only [Package.mem_declaredAccess, Option.not_isSome_iff_eq_none]

theorem otherDeclaration?_eq_some_iff :
    otherDeclaration? packages part id = some (package, access) ↔
      part ≠ .dynamic ∧ FirstMention packages id package access := by
  unfold otherDeclaration? FirstMention
  split
  · rename_i general
    simp [general]
  · rename_i special
    simp only [List.findSome?_eq_some_iff, Option.map_eq_none_iff, head?_declaredAccess_eq_none_iff,
      Option.map_eq_some_iff, Prod.mk.injEq]
    constructor
    · rintro ⟨earlier, _, later, rfl, ⟨_, first, rfl, rfl⟩, misses⟩
      exact ⟨special, earlier, later, rfl, first, misses⟩
    · rintro ⟨-, earlier, later, rfl, first, misses⟩
      exact ⟨earlier, package, later, rfl, ⟨access, first, rfl, rfl⟩, misses⟩

theorem otherDeclaration?_eq_none_iff :
    otherDeclaration? packages part id = none ↔
      part = .dynamic ∨ ∀ package ∈ packages, ∀ access, package.pcd? id access = none := by
  unfold otherDeclaration?
  split
  · rename_i general
    simp [general]
  · rename_i special
    simp only [List.findSome?_eq_none_iff, Option.map_eq_none_iff, head?_declaredAccess_eq_none_iff, special,
      false_or]

theorem exists_firstMention_of_some (found : (package.pcd? id access).isSome) (listed : package ∈ packages)
    (special : part ≠ .dynamic) : ∃ package access, FirstMention packages id package access := by
  cases other : otherDeclaration? packages part id with
  | some mention => exact ⟨mention.1, mention.2, (otherDeclaration?_eq_some_iff.1 other).2⟩
  | none =>
    have silent := (otherDeclaration?_eq_none_iff.1 other).resolve_left special
    rw [silent package listed access] at found
    cases found

section Outcomes

variable (value : String) (file : SourcePath) (line : Nat)

theorem pcdFromPackages_of_good {number : Nat}
    (first : FirstDeclaration packages part id package access declared)
    (good : TokenValue.read declared.token = .ok number) :
    pcdFromPackages packages part id value file line = .ok {
      id, access? := some access, datumType? := declared.datumType?
      value := if value = "" then declared.value else value
      moduleValue := value, token := declared.token, maxSize? := declared.maxSize?
      pending := part = .dynamic } := by
  simp only [pcdFromPackages, declaration?_eq_some_iff.2 first, good]

theorem pcdFromPackages_of_bad {fault : TokenFault}
    (first : FirstDeclaration packages part id package access declared)
    (bad : TokenValue.read declared.token = .error fault) :
    pcdFromPackages packages part id value file line =
      .error (Failure.atLine (.of (.tokenInvalid fault id package.file)) file line) := by
  simp only [pcdFromPackages, declaration?_eq_some_iff.2 first, bad]

variable
  (undeclared : ∀ package ∈ packages, ∀ access declared, ¬ package.DeclaresIn id part access declared)
include undeclared

theorem pcdFromPackages_of_mention (special : part ≠ .dynamic)
    (first : FirstMention packages id package access) :
    pcdFromPackages packages part id value file line =
      .error (Failure.atLine (.of (.accessDeclared id part.access file access package.file)) file line) := by
  simp only [pcdFromPackages, declaration?_eq_none_iff.2 undeclared,
    otherDeclaration?_eq_some_iff.2 ⟨special, first⟩]

theorem pcdFromPackages_of_silent
    (silent : part = .dynamic ∨ ∀ package ∈ packages, ∀ access, package.pcd? id access = none) :
    pcdFromPackages packages part id value file line =
      .error (((Failure.of (.pcdUndeclared id file)).atLine file line).withDetail
        ("\t" ++ packageList packages)) := by
  simp only [pcdFromPackages, declaration?_eq_none_iff.2 undeclared, otherDeclaration?_eq_none_iff.2 silent]

end Outcomes

/-- A module's use of an item is settled by the first package that declares it for the section, be its
token value good or bad. Where there is none, other declarations only decide how the use fails. -/
theorem pcdFromPackages_by_first_declaration (packages : List Package) (part : PcdSection) (id : PcdId)
    (value : String) (file : SourcePath) (line : Nat) :
    let result := pcdFromPackages packages part id value file line
    (∀ package access declared, FirstDeclaration packages part id package access declared →
      (∀ number, TokenValue.read declared.token = .ok number → result = .ok {
        id, access? := some access, datumType? := declared.datumType?
        value := if value = "" then declared.value else value
        moduleValue := value, token := declared.token, maxSize? := declared.maxSize?
        pending := part = .dynamic }) ∧
      ∀ fault, TokenValue.read declared.token = .error fault → Checked.FailsAs .formatInvalid result) ∧
    ((∀ package ∈ packages, ∀ access declared, ¬ package.DeclaresIn id part access declared) →
      (Checked.FailsAs .optionConflict result ↔ part ≠ .dynamic ∧
        ∃ package ∈ packages, ∃ access, access ≠ part.access ∧ (package.pcd? id access).isSome) ∧
      (Checked.FailsAs .formatInvalid result ↔ part = .dynamic ∨
        ∀ package ∈ packages, ∀ access, package.pcd? id access = none)) := by
  intro result
  refine ⟨fun package access declared first => ⟨?_, fun fault bad => ?_⟩, fun undeclared => ?_⟩
  · exact fun number => pcdFromPackages_of_good value file line first
  · exact ⟨_, pcdFromPackages_of_bad value file line first bad, rfl⟩
  by_cases silent : part = .dynamic ∨ ∀ package ∈ packages, ∀ access, package.pcd? id access = none
  · have failed := pcdFromPackages_of_silent value file line undeclared silent
    refine ⟨iff_of_false (Checked.not_failsAs failed nofun) ?_, iff_of_true ⟨_, failed, rfl⟩ silent⟩
    rintro ⟨special, package, listed, access, -, found⟩
    rw [silent.resolve_left special package listed access] at found
    cases found
  · simp only [not_or, not_forall, ← ne_eq, ← Option.isSome_iff_ne_none] at silent
    obtain ⟨special, package, listed, access, found⟩ := silent
    obtain ⟨first, mentioned, mention⟩ := exists_firstMention_of_some found listed special
    have failed := pcdFromPackages_of_mention value file line undeclared special mention
    refine ⟨iff_of_true ⟨_, failed, rfl⟩ ⟨special, package, listed, access, ?_, found⟩,
      iff_of_false (Checked.not_failsAs failed nofun) ?_⟩
    · rintro rfl
      obtain ⟨declared, found⟩ := Option.isSome_iff_exists.1 found
      exact undeclared package listed _ declared (.own special found)
    · rintro (general | silent)
      · exact special general
      · rw [silent package listed access] at found
        cases found

def declaringPackage (file : String) (id : PcdId) (access : Access) (token : String) : Package where
  file := .ofText file
  arch := "X64"
  name := file
  guid := ""
  version := ""
  protocols := ∅
  ppis := ∅
  guids := ∅
  includes := []
  libraryClasses := ∅
  pcds := .ofList [((id, access), { id, access? := some access, value := "7", token })]

/-- The bad token value of the first package hides the good one of the second. -/
theorem pcdFromPackages_by_first_declaration_badToken :
    let id : PcdId := ⟨"PcdSize", "gTokenSpace"⟩
    let bad := declaringPackage "First.dec" id .dynamicEx "twelve"
    let good := declaringPackage "Second.dec" id .fixedAtBuild "0x0C"
    Checked.FailsAs .formatInvalid (pcdFromPackages [bad, good] .dynamic id "" (.ofText "App.inf") 3) ∧
      (pcdFromPackages [bad, good] .fixedAtBuild id "" (.ofText "App.inf") 3).toOption.map Pcd.value =
        some "7" ∧
      Checked.FailsAs .optionConflict (pcdFromPackages [bad, good] .featureFlag id "" (.ofText "App.inf") 3) := by
  intro id bad good
  have malformed : TokenValue.read "twelve" = .error (.malformed "twelve") := rfl
  have twelve : TokenValue.read "0x0C" = .ok 12 := rfl
  have settled (part : PcdSection) :=
    pcdFromPackages_by_first_declaration [bad, good] part id "" (.ofText "App.inf") 3
  refine ⟨?_, ?_, ?_⟩
  · have first := declaration?_eq_some_iff.1
      (rfl : declaration? [bad, good] .dynamic id = some (bad, .dynamicEx, _))
    exact ((settled .dynamic).1 _ _ _ first).2 _ malformed
  · have first := declaration?_eq_some_iff.1
      (rfl : declaration? [bad, good] .fixedAtBuild id = some (good, .fixedAtBuild, _))
    rw [((settled .fixedAtBuild).1 _ _ _ first).1 _ twelve]
    rfl
  · have none := declaration?_eq_none_iff.1 (rfl : declaration? [bad, good] .featureFlag id = none)
    exact ((settled .featureFlag).2 none).1.2 ⟨by decide, bad, by simp, .dynamicEx, by decide, rfl⟩

end Module

end UefiBuild
