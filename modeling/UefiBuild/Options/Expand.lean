import UefiBuild.Options.Key

namespace UefiBuild

structure OptionContext where
  target : String
  toolchain : String
  arch : String
  buildRuleFamily : String
  tools : ToolOptions

structure KeyedOption where
  family : String
  key : OptionKey
  value : String

namespace OptionContext

def selects (context : OptionContext) (key : OptionKey) : Bool :=
  (key.target = "*" || key.target = context.target) &&
    (key.toolchain = "*" || key.toolchain = context.toolchain) &&
    (key.arch = "*" || key.arch = context.arch)

def toolAttribute (context : OptionContext) (tool attr : String) : String :=
  (context.tools.value? tool attr).getD ""

/-- The options of the build rule family that replace what they meet, as far as they are selected. -/
def replacing (context : OptionContext) : List (OptionId × String) → Checked (List (OptionId × OptionKey))
  | [] => .ok []
  | (id, value) :: rest =>
    if id.family = context.buildRuleFamily ∧ Text.startsWith "=" value then do
      let key ← OptionKey.read id.key
      let others ← context.replacing rest
      return if context.selects key then (id, key) :: others else others
    else context.replacing rest

/-- Of each overlapping pair the less specific, or the earlier of two equally specific ones. -/
def shadowed : List (OptionId × OptionKey) → List OptionId
  | [] => []
  | (id, key) :: rest =>
    (rest.filter fun (_, other) => key.overlaps other).map (fun (otherId, other) =>
      if other.priority < key.priority then otherId else id) ++ shadowed rest

def dropShadowed (context : OptionContext) (options : BuildOptions) : Checked BuildOptions := do
  let lost := shadowed (← context.replacing options.entries)
  return options.filter fun id _ => id ∉ lost

def gates (context : OptionContext) (option : KeyedOption) : Bool :=
  context.tools.contains option.key.command && option.family ≠ ""

def wantedFamily (context : OptionContext) (tool : String) : String :=
  let ruleFamily := context.toolAttribute tool "BUILDRULEFAMILY"
  if ruleFamily = "" then context.toolAttribute tool "FAMILY" else ruleFamily

def wants (context : OptionContext) (option : KeyedOption) : Bool :=
  option.family = context.wantedFamily option.key.command

/-- Flags add up; of any other attribute the last value counts. -/
def merge (expanded : ToolOptions) (option : KeyedOption) : ToolOptions :=
  let { command, attr, .. } := option.key
  expanded.update command fun attributes =>
    (attributes.getD ∅).update attr fun old =>
      match old with
      | some before => if attr = "FLAGS" then before ++ " " ++ option.value else option.value
      | none => option.value

def mergeSelected (context : OptionContext) (expanded : ToolOptions) (option : KeyedOption) : ToolOptions :=
  if context.selects option.key then merge expanded option else expanded

structure Expansion where
  merged : ToolOptions := ∅
  gated : Bool := false
  matched : Bool := false

/-- The first pass leaves out the options of a family that the tool does not want. -/
def takeWanted (context : OptionContext) (state : Expansion) (option : KeyedOption) : Expansion :=
  if context.gates option then
    if context.wants option then
      { merged := context.mergeSelected state.merged option, gated := true, matched := true }
    else { state with gated := true }
  else { state with merged := context.mergeSelected state.merged option }

def ofOwnFamily (context : OptionContext) (option : KeyedOption) : Bool :=
  option.family = context.toolAttribute option.key.command "FAMILY"

def takeOwn (context : OptionContext) (expanded : ToolOptions) (option : KeyedOption) : ToolOptions :=
  if context.gates option && context.ofOwnFamily option then context.mergeSelected expanded option
  else expanded

/-- There is a second pass if some options are gated but none of these is of a wanted family. -/
def mergePasses (context : OptionContext) (all : List KeyedOption) : ToolOptions :=
  let first := all.foldl context.takeWanted {}
  if first.matched || !first.gated then first.merged else all.foldl context.takeOwn first.merged

def keyed (options : BuildOptions) : Checked (List KeyedOption) :=
  options.entries.mapM fun (id, value) => do
    return { family := id.family, key := ← OptionKey.read id.key, value }

def expand (context : OptionContext) (options : BuildOptions) : Checked ToolOptions := do
  return context.mergePasses (← keyed (← context.dropShadowed options))

end OptionContext

namespace ToolOptions

/-- A value that starts with `=` replaces what came before, any other is added after a space. -/
def combine (before value : String) : String :=
  match Text.afterStart? "=" value with
  | some replacement => replacement
  | none => if before = "" then value else before ++ " " ++ value

def addLayer (attributes layer : Table String String) : Table String String :=
  layer.entries.foldl (fun attributes (attr, value) =>
    attributes.update attr fun old => combine (old.getD "") value) attributes

def layered (layers : List ToolOptions) : ToolOptions :=
  .ofList ((distinct (layers.flatMap Table.keys)).map fun tool =>
    (tool, (layers.filterMap (·.get? tool)).foldl addLayer ∅))

end ToolOptions

end UefiBuild
