import UefiBuild.Failure

namespace UefiBuild

/-- `TARGET_TOOLCHAIN_ARCH_COMMAND_ATTRIBUTE`, where `*` in a field stands for any value. -/
structure OptionKey where
  target : String
  toolchain : String
  arch : String
  command : String
  attr : String
  deriving DecidableEq

namespace OptionKey

def ofText? (text : String) : Option OptionKey :=
  match Text.split '_' text with
  | [target, toolchain, arch, command, attr] =>
    some { target, toolchain, arch, command, attr }
  | _ => none

def read (text : String) : Checked OptionKey :=
  (ofText? text).elim (.error (.of (.optionKey text))) .ok

/-- Which of two overlapping keys is the more specific: the command counts most, then architecture,
toolchain and target. A key for every attribute comes last. -/
def priority (key : OptionKey) : Nat :=
  let weight (field : String) (n : Nat) := if field = "*" then 0 else n
  if key.attr = "*" then 0
  else weight key.command 8 + weight key.arch 4 + weight key.toolchain 2 + weight key.target 1 + 1

def meets (a b : String) : Bool := a = b || a = "*" || b = "*"

/-- Whether some concrete key is matched by both. -/
def overlaps (key other : OptionKey) : Bool :=
  meets key.target other.target && meets key.toolchain other.toolchain &&
    meets key.arch other.arch && meets key.command other.command &&
    meets key.attr other.attr

end OptionKey

structure OptionId where
  family : String
  key : String
  deriving DecidableEq, Inhabited

abbrev BuildOptions := Table OptionId String

abbrev ToolOptions := Table String (Table String String)

def ToolOptions.value? (options : ToolOptions) (tool attr : String) : Option String :=
  (options.get? tool).bind (·.get? attr)

def BuildOptions.append (options : BuildOptions) (id : OptionId) (value : String) : BuildOptions :=
  options.update id fun old => old.elim value fun before => before ++ " " ++ value

end UefiBuild
