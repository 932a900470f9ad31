import UefiBuild.Module.Basic

namespace UefiBuild.Module

/-- Whether a module takes over the dependency expressions of its libraries. One that brings an
expression in a file of its own does not. -/
def mergesDepex (module : Module) : Bool :=
  module.dxsFile?.isNone && !module.isLibrary &&
    !module.sources.any fun source => source.file.hasExtension ".dxs"

def applicableDepex (module : Module) (arch : String) (type : ModuleType) : List (List DepexToken) :=
  module.depex.resolveAll [arch, type.name]

/-- Words that place a module before or after another and leave no room for conditions. -/
def isOrdering (token : String) : Bool := token = "BEFORE" || token = "AFTER"

def withoutEnd (tokens : List String) : List String :=
  if tokens.getLast? = some "END" then tokens.dropLast else tokens

/-- Adds an expression in parentheses. An `END` that comes last is left out, also where the
expression has no other word. -/
def joinDepex (tokens expression : List String) : List String :=
  tokens ++ (if tokens.isEmpty then [] else ["AND"]) ++ withoutEnd ("(" :: expression) ++ [")"]

/-- Joins the expressions of one module after the other, up to the first with an ordering. -/
def joinModules (arch : String) (type : ModuleType) : List String → List Module → List String
  | tokens, [] => tokens
  | tokens, module :: others =>
    let joined := ((module.applicableDepex arch type).map depexValues).foldl joinDepex tokens
    if joined.any isOrdering then joined else joinModules arch type joined others

def mergedDepex (module : Module) (libraries : List Module) (arch : String) : Option (List String) :=
  if module.mergesDepex then some (joinModules arch module.type [] (module :: libraries)) else none

def joinDepexText (text written : String) : String :=
  let written := Text.trim written
  let expression := ((Text.beforeEnd? "END" written).getD written)
  text ++ (if text = "" then "" else " AND ") ++
    s!"({String.ofList (Text.trimEnd expression.toList)})"

def joinModuleTexts (arch : String) (type : ModuleType) : String → List Module → String
  | text, [] => text
  | text, module :: others =>
    let joined := ((module.applicableDepex arch type).map depexText).foldl joinDepexText text
    if Text.contains joined "BEFORE" || Text.contains joined "AFTER" then joined
    else joinModuleTexts arch type joined others

def mergedDepexText (module : Module) (libraries : List Module) (arch : String) : Option String :=
  if module.mergesDepex then some (joinModuleTexts arch module.type "" (module :: libraries)) else none

end UefiBuild.Module
