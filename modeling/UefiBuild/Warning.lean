import UefiBuild.Pcd.Basic
import UefiBuild.SourcePath
import UefiBuild.Text.Invisible

namespace UefiBuild

inductive Warning
  | unknownLibraryType (text : String)
  | libraryNotFound (name : String) (module : SourcePath) (arch : String)
  | unreferencedVpd
  | pcdUnused (pcd : PcdId) (platform : SourcePath) (arches : List String)

namespace Warning

def escaped (c : Char) : List Char :=
  match c with
  | '"' => ['\\', '"']
  | '\\' => ['\\', '\\']
  | '\n' => ['\\', 'n']
  | '\r' => ['\\', 'r']
  | '\t' => ['\\', 't']
  | '\x00' => ['\\', '0']
  | c =>
    if Text.isInvisible c then ['\\', 'u', '\x7b'] ++ Nat.toDigits 16 c.toNat ++ ['\x7d'] else [c]

def quotedList (texts : List String) : String :=
  let quoted (s : String) := "\"" ++ String.ofList (s.toList.flatMap escaped) ++ "\""
  "[" ++ Text.join ", " (texts.map quoted) ++ "]"

def message : Warning → String
  | unknownLibraryType text => s!"ignoring unknown module type [{text}] in LIBRARY_CLASS"
  | libraryNotFound name module arch => s!"Library [{name}] is not found\n\t{module.text} [{arch}]"
  | unreferencedVpd => "Unreferenced vpd pcd used!"
  | pcdUnused pcd platform arches =>
    "The PCD was not specified by any INF module in the platform for the given architecture.\n" ++
      s!"\tPCD: [{pcd.fullName}]\n\tPlatform: [{platform.text}]\n\tArch: " ++ quotedList arches

end Warning

end UefiBuild
