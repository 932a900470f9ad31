import UefiBuild.Failure

namespace UefiBuild

structure ToolTable where
  entries : Table String String := ∅
  deriving Inhabited

namespace ToolTable

def insert (tools : ToolTable) (key value : String) : ToolTable := ⟨tools.entries.insert key value⟩

def isEmpty (tools : ToolTable) : Bool := tools.entries.isEmpty

def uncommented (line : String) : String :=
  Text.trim ((Text.cutAtFirst? '#' line).elim line Prod.fst)

def readLine (tools : ToolTable) (number : Nat) (line : String) : Checked ToolTable :=
  let line := uncommented line
  if line = "" then .ok tools
  else
    match Text.cutAtFirst? '=' line with
    | none => .error (.of (.toolLine number line))
    | some (key, value) =>
      let key := Text.trim key
      if (Text.split '_' key).length = 5 then .ok (tools.insert key (Text.trim value))
      else .error (.of (.toolKey number key))

def readLines (tools : ToolTable) : Nat → List String → Checked ToolTable
  | _, [] => .ok tools
  | number, line :: rest => do readLines (← tools.readLine number line) (number + 1) rest

def read (text : String) : Checked ToolTable := readLines {} 1 (Text.lines text)

def toolNames (tools : ToolTable) : List String :=
  (distinct (tools.entries.keys.filterMap fun key => (Text.split '_' key)[3]?)).filter (· ≠ "*")

def fieldRank? (field wanted : String) : Option Nat :=
  if field = "*" then some 0 else if field = wanted then some 2 else none

structure Match where
  rank : Nat
  tool : String
  attr : String
  value : String

/-- What a key gives in a build context: one match, or one for every tool if it names none. -/
def keyMatches (names : List String) (target toolchain arch key value : String) : List Match :=
  match Text.split '_' key with
  | [forTarget, forToolchain, forArch, tool, attr] =>
    match fieldRank? forTarget target, fieldRank? forToolchain toolchain, fieldRank? forArch arch with
    | some a, some b, some c =>
      if tool = "*" then names.map fun tool => { rank := a + b + c, tool, attr, value }
      else [{ rank := a + b + c + 1, tool, attr, value }]
    | _, _, _ => []
  | _ => []

def byRank (found : List Match) : List Match :=
  (List.range 8).flatMap fun rank => found.filter (·.rank = rank)

/-- The value of each attribute of each tool, taken from the most specific key and from the last of
several such keys. -/
def entriesFor (tools : ToolTable) (target toolchain arch : String) : Table (String × String) String :=
  let found := tools.entries.entries.flatMap fun (key, value) =>
    keyMatches tools.toolNames target toolchain arch key value
  .ofList ((byRank found).map fun m => ((m.tool, m.attr), m.value))

def toolchainAttribute? (tools : ToolTable) (toolchain attr : String) : Option String :=
  tools.entries.entries.findSome? fun (key, value) =>
    match Text.split '_' key with
    | [_, forToolchain, _, _, named] =>
      if forToolchain = toolchain ∧ named = attr ∧ value ≠ "" then some value else none
    | _ => none

def defaultFamily : String := "MSFT"

def family (tools : ToolTable) (toolchain : String) : String :=
  (tools.toolchainAttribute? toolchain "FAMILY").getD defaultFamily

def buildRuleFamily (tools : ToolTable) (toolchain : String) : String :=
  (tools.toolchainAttribute? toolchain "BUILDRULEFAMILY").getD defaultFamily

end ToolTable

end UefiBuild
