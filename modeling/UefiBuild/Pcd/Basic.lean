import UefiBuild.Pcd.Access
import UefiBuild.Pcd.Datum
import UefiBuild.Table

namespace UefiBuild

structure PcdId where
  name : String
  space : String
  deriving DecidableEq, Inhabited

def PcdId.fullName (id : PcdId) : String := s!"{id.space}.{id.name}"

structure SkuValue where
  skuName : String := ""
  skuId : String := ""
  variableName : String := ""
  variableGuid : String := ""
  variableGuidValue : String := ""
  variableOffset : String := ""
  hiiDefault : String := ""
  vpdOffset : String := ""
  value : String := ""
  deriving DecidableEq, Inhabited

structure Pcd where
  id : PcdId
  access? : Option Access := none
  datumType? : Option DatumType := none
  value : String := ""
  moduleValue : String := ""
  token : String := ""
  maxSize? : Option String := none
  skus : Table String SkuValue := ∅
  /-- Whether the module leaves the choice of access to the platform. -/
  pending : Bool := false
  deriving DecidableEq, Inhabited

namespace Pcd

def fullName (pcd : Pcd) : String := pcd.id.fullName

def isDynamic (pcd : Pcd) : Bool := pcd.access?.any Access.isDynamic

def isVpd (pcd : Pcd) : Bool := pcd.access?.any Access.isVpd

def firstSku? (pcd : Pcd) : Option SkuValue := pcd.skus.values.head?

def firstSkuValue (pcd : Pcd) : String := pcd.firstSku?.elim pcd.value SkuValue.value

def mapFirstSku (pcd : Pcd) (f : SkuValue → SkuValue) : Pcd :=
  match pcd.skus.entries with
  | [] => pcd
  | (name, sku) :: _ => { pcd with skus := pcd.skus.insert name (f sku) }

end Pcd

inductive SettingForm
  | plain
  | hii
  | vpd
  deriving DecidableEq

namespace SettingForm

def width : SettingForm → Nat
  | plain | vpd => 3
  | hii => 4

def name : SettingForm → String
  | plain => "PCD"
  | hii => "HII PCD"
  | vpd => "VPD PCD"

end SettingForm

end UefiBuild
