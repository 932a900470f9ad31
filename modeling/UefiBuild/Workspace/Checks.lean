import UefiBuild.Workspace.Basic

namespace UefiBuild

namespace Package

/-- The token value in one spelling, unless it cannot be read. -/
def tokenText (pcd : Pcd) : String :=
  match TokenValue.read pcd.token with
  | .ok n => toString n
  | .error _ => pcd.token

def textLe (a b : String) : Bool := !decide (b < a)

def orderBy (first second : Pcd → String) (pcds : List Pcd) : List Pcd :=
  pcds.mergeSort fun a b =>
    if first a = first b then textLe (second a) (second b) else textLe (first a) (first b)

def neighbours {α : Type} (l : List α) : List (α × α) := l.zip l.tail

def sharedToken? (pcds : List Pcd) : Option (Pcd × Pcd) :=
  (neighbours (orderBy tokenText (·.id.name) pcds)).find? fun (a, b) =>
    tokenText a = tokenText b && a.id.name ≠ b.id.name

def changedToken? (pcds : List Pcd) : Option Pcd :=
  ((neighbours (orderBy (·.id.name) tokenText pcds)).find? fun (a, b) =>
    a.id.name = b.id.name && tokenText a ≠ tokenText b).map Prod.fst

def checkSpace (file : SourcePath) (pcds : List Pcd) : Checked Unit := do
  if let some (a, b) := sharedToken? pcds then
    throw (.of (.tokenShared a.token a.id b.id file))
  if let some a := changedToken? pcds then
    throw (.of (.tokenChanged a.token a.id file))

def checkTokens (package : Package) : Checked Unit :=
  let spaces := (distinct (package.pcds.values.map (·.id.space))).mergeSort textLe
  spaces.forM fun space =>
    checkSpace package.file (package.pcds.values.filter fun pcd => pcd.id.space = space)

end Package

namespace Workspace

def checkTokenValues (workspace : Workspace) (platforms : List PlatformContext) : Build Unit :=
  platforms.forM fun platform => do
    let packages ← workspace.packageList platform.arch
    packages.forM fun package => .ofChecked package.value.checkTokens

/-- Whether an item is declared as the platform uses it. The first package that declares it at all
decides; the answer is whether there is one. -/
def checkDeclared (id : PcdId) (used : Access) : List Package → Except Cause Bool
  | [] => .ok false
  | package :: others =>
    if (package.pcd? id used.family).isSome then .ok true
    else
      match package.lowestAccess? id with
      | some declared => .error (.accessUndeclared id used declared)
      | none => checkDeclared id used others

def undeclaredPcds (platform : Platform) (packages : List Package) : Checked (List PcdId) := do
  let found ← (platform.pcds.entries.filterMap fun (id, pcd) => pcd.access?.map (id, ·)).mapM
    fun (id, used) => do
      let declared ← (checkDeclared id used packages).mapError fun cause =>
        Failure.inFile (.of cause) platform.file
      return (id, declared)
  return (found.filter (!·.2)).map Prod.fst

def checkAccess (workspace : Workspace) (platforms : List PlatformContext) : Build Unit := do
  let unused ← platforms.mapM fun platform => do
    let packages ← workspace.packageList platform.arch
    let ids ← .ofChecked (undeclaredPcds platform.data (packages.map Shared.value))
    return ids.map (·, platform.arch)
  (Table.group unused.flatten).entries.forM fun (id, arches) =>
    Build.warn (.pcdUnused id workspace.config.platform arches)

end Workspace

end UefiBuild
