import UefiBuild.Script.Tool.Places

namespace UefiBuild.Script.Tool

def listing (machine : Machine) (given : Given) (name : String) : String :=
  let names := (machine.namesIn name).filter fun other =>
    given.has 'a' || given.has 'A' || !Text.startsWith "." other
  let names := if given.has 'a' then "." :: ".." :: names else names
  let names := if given.has 'r' then names.reverse else names
  let shown (other : String) : String :=
    if (given.has 'p' || given.has 'F') && machine.isFolder (within name other) then other ++ "/"
    else other
  ofLines (names.map shown)

def ls : Tool :=
  Tool.withOptions
    { plain := ['1', 'a', 'A', 'd', 'p', 'F', 'r', 't', 'l', 'h', 'i', 'k', 's', 'C', 'x', 'm', 'q',
        'U', 'f', 'S', 'X', 'n', 'o', 'g', 'L', 'H', 'b', 'Q', 'N', 'v', 'c', 'u', 'G', 'B']
      valued := ['I', 'w', 'T']
      long := [("all", 'a'), ("almost-all", 'A'), ("directory", 'd'), ("reverse", 'r')] } 2
    fun title given => do
      let names := if given.operands.isEmpty then ["."] else given.operands
      let mut files : List String := []
      let mut folders : List String := []
      for name in names do
        match ← find name with
        | .error error => Act.report title s!"cannot access '{name}': {reason error}" 2
        | .ok (_, entry) =>
          if entry.isFolder && !given.has 'd' then folders := folders ++ [name]
          else files := files ++ [name]
      let sorted (names : List String) : List String := names.mergeSort fun a b => decide (a ≤ b)
      Act.emit 1 (ofLines (sorted files))
      let headed := 1 < names.length
      let mut first := files.isEmpty
      for folder in sorted folders do
        if !first then Act.emit 1 "\n"
        first := false
        if headed then Act.emit 1 s!"{folder}:\n"
        Act.emit 1 (listing (← get) given folder)

end UefiBuild.Script.Tool
