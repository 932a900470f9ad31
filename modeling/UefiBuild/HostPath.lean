import UefiBuild.SourcePath

namespace UefiBuild

structure HostPath where
  text : String
  deriving DecidableEq, Inhabited

namespace HostPath

def isAbsolute (p : HostPath) : Bool := Text.startsWith "/" p.text

/-- An absolute path replaces what it is joined to. -/
def join (p : HostPath) (next : String) : HostPath :=
  if Text.startsWith "/" next then ⟨next⟩
  else if p.text = "" ∨ Text.endsWith "/" p.text then ⟨p.text ++ next⟩
  else ⟨p.text ++ "/" ++ next⟩

/-- The steps of a path. Repeated slashes and `.` are no steps, save a `.` in front. -/
def components (p : HostPath) : List String :=
  let names := Text.split '/' p.text
  let steps := names.filter fun name => name ≠ "" && name ≠ "."
  if p.isAbsolute then "/" :: steps
  else if names.head? = some "." then "." :: steps
  else steps

def sameSteps (p q : HostPath) : Bool := p.components = q.components

def withoutExtension (p : HostPath) : HostPath :=
  match Text.cutLast? '.' p.text.toList with
  | some (before, after) =>
    if '/' ∈ after ∨ before = [] ∨ before.getLast? = some '/' then p else ⟨String.ofList before⟩
  | none => p

end HostPath

def SourcePath.onHost (file : SourcePath) (workspace : HostPath) : HostPath :=
  workspace.join file.text

end UefiBuild
