import UefiBuild.Text.Split

namespace UefiBuild

inductive Access
  | fixedAtBuild
  | patchableInModule
  | featureFlag
  | dynamic
  | dynamicHii
  | dynamicVpd
  | dynamicEx
  | dynamicExHii
  | dynamicExVpd
  deriving DecidableEq, Inhabited

inductive PcdSection
  | fixedAtBuild
  | patchableInModule
  | featureFlag
  | dynamic
  | dynamicDefault
  | dynamicHii
  | dynamicVpd
  | dynamicEx
  | dynamicExDefault
  | dynamicExHii
  | dynamicExVpd
  deriving DecidableEq, Inhabited

namespace Access

def name : Access → String
  | fixedAtBuild => "FixedAtBuild"
  | patchableInModule => "PatchableInModule"
  | featureFlag => "FeatureFlag"
  | dynamic => "Dynamic"
  | dynamicHii => "DynamicHii"
  | dynamicVpd => "DynamicVpd"
  | dynamicEx => "DynamicEx"
  | dynamicExHii => "DynamicExHii"
  | dynamicExVpd => "DynamicExVpd"

def ofText? (s : String) : Option Access :=
  match Text.trim s with
  | "FixedAtBuild" => some fixedAtBuild
  | "PatchableInModule" => some patchableInModule
  | "FeatureFlag" => some featureFlag
  | "Dynamic" | "DynamicDefault" => some dynamic
  | "DynamicHii" => some dynamicHii
  | "DynamicVpd" => some dynamicVpd
  | "DynamicEx" | "DynamicExDefault" => some dynamicEx
  | "DynamicExHii" => some dynamicExHii
  | "DynamicExVpd" => some dynamicExVpd
  | _ => none

def declarable : List Access := [fixedAtBuild, patchableInModule, featureFlag, dynamic, dynamicEx]

def isDynamic : Access → Bool
  | fixedAtBuild | patchableInModule | featureFlag => false
  | _ => true

def isDynamicEx : Access → Bool
  | dynamicEx | dynamicExHii | dynamicExVpd => true
  | _ => false

def isVpd : Access → Bool
  | dynamicVpd | dynamicExVpd => true
  | _ => false

def family : Access → Access
  | dynamic | dynamicHii | dynamicVpd => dynamic
  | dynamicEx | dynamicExHii | dynamicExVpd => dynamicEx
  | other => other

end Access

namespace PcdSection

def access : PcdSection → Access
  | fixedAtBuild => .fixedAtBuild
  | patchableInModule => .patchableInModule
  | featureFlag => .featureFlag
  | dynamic | dynamicDefault => .dynamic
  | dynamicHii => .dynamicHii
  | dynamicVpd => .dynamicVpd
  | dynamicEx | dynamicExDefault => .dynamicEx
  | dynamicExHii => .dynamicExHii
  | dynamicExVpd => .dynamicExVpd

def declaring : List PcdSection :=
  [fixedAtBuild, patchableInModule, featureFlag, dynamic, dynamicEx]

def perPlatform : List PcdSection := [fixedAtBuild, patchableInModule, featureFlag]

def perSku : List PcdSection :=
  [dynamicDefault, dynamicHii, dynamicVpd, dynamicExDefault, dynamicExHii, dynamicExVpd]

end PcdSection

end UefiBuild
