import UefiBuild.Text.Case
import UefiBuild.Text.Split

namespace UefiBuild

/-- The place of a file in the source tree, as the names of the folders that lead to it. -/
structure SourcePath where
  segments : List String
  deriving DecidableEq, Inhabited

namespace SourcePath

/-- `.` and an empty name stay where they are and `..` goes up, though never above the tree. -/
def enter (above : List String) (name : String) : List String :=
  if name = "" ∨ name = "." then above
  else if name = ".." then above.dropLast
  else above ++ [name]

def ofText (s : String) : SourcePath :=
  ⟨(Text.splitAt (fun c => c == '/' || c == '\\') (Text.trim s)).foldl enter []⟩

def text (file : SourcePath) : String := Text.join "/" file.segments

def inDir (dir relative : String) : SourcePath :=
  if dir = "" then ofText relative else ofText (dir ++ "/" ++ relative)

def dir (file : SourcePath) : String := Text.join "/" file.segments.dropLast

def fileName (file : SourcePath) : String := file.segments.getLast?.getD ""

def baseName (file : SourcePath) : String :=
  (Text.cutAtLast? '.' file.fileName).elim file.fileName Prod.fst

def extension (file : SourcePath) : String :=
  (Text.cutAtLast? '.' file.fileName).elim "" fun (_, ext) => "." ++ ext

def hasExtension (file : SourcePath) (expected : String) : Bool :=
  Text.sameIgnoringAsciiCase file.extension expected

end SourcePath

end UefiBuild
