import UefiBuild.Failure

namespace UefiBuild

inductive Phase
  | pei
  | dxe
  deriving DecidableEq, Inhabited

def Phase.name : Phase → String
  | pei => "PEI"
  | dxe => "DXE"

def Phase.ofModule (type : ModuleType) : Phase := if type.isPei then .pei else .dxe

structure DynamicPcd where
  pcd : Pcd
  phase : Phase
  deriving DecidableEq

structure PcdLayout where
  dynamic : List DynamicPcd := []
  fixed : List Pcd := []
  unsized : List String := []
  deriving Inhabited

namespace PcdLayout

/-- The first use of a dynamic item gives it its place. A use in the PEI phase takes it over. -/
def placeDynamic (pcd : Pcd) (phase : Phase) : List DynamicPcd → List DynamicPcd
  | [] => [{ pcd, phase }]
  | item :: rest =>
    if item.pcd.id = pcd.id then
      (if phase = .pei then { pcd, phase } else item) :: rest
    else item :: placeDynamic pcd phase rest

def place (layout : PcdLayout) (phase : Phase) (pcd : Pcd) : PcdLayout :=
  if pcd.isDynamic then { layout with dynamic := placeDynamic pcd phase layout.dynamic }
  else if layout.fixed.any (·.id = pcd.id) then layout
  else { layout with fixed := layout.fixed ++ [pcd] }

def noteSize (layout : PcdLayout) (module : SourcePath) (pcd : Pcd) : PcdLayout :=
  if pcd.datumType? = some .blob ∧ pcd.maxSize? = none then
    { layout with unsized := addNew layout.unsized s!"{pcd.fullName} [{module.text}]" }
  else layout

def collect (layout : PcdLayout) (module : SourcePath) (type : ModuleType) (pcds : List Pcd) :
    PcdLayout :=
  pcds.foldl (fun layout pcd => (layout.noteSize module pcd).place (.ofModule type) pcd) layout

def check (layout : PcdLayout) (platform : SourcePath) : Checked Unit :=
  if layout.unsized = [] then .ok ()
  else
    .error ((Failure.inFile (.of .pcdSettings) platform).withDetail
      ("\n\tPCD(s) without MaxDatumSize:\n\t\t" ++ Text.join "\n\t\t" layout.unsized ++ "\n"))

inductive Part
  | wideText
  | variable
  | other
  deriving DecidableEq

def part (pcd : Pcd) : Part :=
  let sku := pcd.firstSku?
  if pcd.datumType? = some .blob ∧ sku.any (Text.startsWith "L" ·.value) then .wideText
  else if sku.any (·.variableName ≠ "") then .variable
  else .other

def ordered (layout : PcdLayout) : PcdLayout :=
  let of (wanted : Part) := layout.dynamic.filter fun item => part item.pcd = wanted
  { layout with dynamic := of .wideText ++ of .variable ++ of .other }

/-- All items in the order of their numbers: the PEI database, the DXE database, and the rest. -/
def numbered (layout : PcdLayout) : List PcdId :=
  let of (phase : Phase) := (layout.dynamic.filter (·.phase = phase)).map (·.pcd.id)
  of .pei ++ of .dxe ++ layout.fixed.map Pcd.id

def tokenNumbers (layout : PcdLayout) : Table PcdId Nat :=
  .ofList (layout.numbered.zipIdx 1)

end PcdLayout

end UefiBuild
