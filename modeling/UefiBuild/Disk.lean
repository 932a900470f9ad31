import UefiBuild.HostPath
import UefiBuild.Table
import UefiBuild.Text.Utf8

namespace UefiBuild

inductive FileError
  | notFound
  | notExecutable
  | permissionDenied
  | notFolder
  | isFolder
  | nameTooLong
  | notText
  | nulInPath
  | nulInCommand
  deriving DecidableEq

def FileError.message : FileError → String
  | notFound => "No such file or directory (os error 2)"
  | notExecutable => "Exec format error (os error 8)"
  | permissionDenied => "Permission denied (os error 13)"
  | notFolder => "Not a directory (os error 20)"
  | isFolder => "Is a directory (os error 21)"
  | nameTooLong => "File name too long (os error 36)"
  | notText => "stream did not contain valid UTF-8"
  | nulInPath => "file name contained an unexpected NUL byte"
  | nulInCommand => "nul byte found in provided data"

inductive Content
  | text (text : String)
  | binary (bytes : List UInt8)

namespace Content

def ofBytes (bytes : List UInt8) : Content :=
  match Text.ofUtf8? bytes with
  | some decoded => text decoded
  | none => binary bytes

def bytes : Content → List UInt8
  | text written => Text.toUtf8 written
  | binary bytes => bytes

def shown : Content → String
  | text written => written
  | binary bytes => Text.ofUtf8 bytes

end Content

inductive DiskEntry
  | folder
  | file (content : Content) (executable : Bool)

def DiskEntry.isFolder : DiskEntry → Bool
  | folder => true
  | file _ _ => false

/-- The files a build can see, by the names that lead to them from the folder it runs in. A place
outside that folder starts with `..`, or with `/` if its path is absolute. -/
structure Disk where
  entries : Table (List String) DiskEntry := ∅

namespace Disk

def entry? (disk : Disk) (place : List String) : Option DiskEntry :=
  match place.getLast? with
  | none | some ".." | some "/" => some .folder
  | some _ => disk.entries.get? place

def above (place : List String) : List String :=
  match place.getLast? with
  | none | some ".." => place ++ [".."]
  | some "/" => place
  | some _ => place.dropLast

def nameLimit : Nat := 255

def pathLimit : Nat := 4096

def walk (disk : Disk) : List String → List String → Except FileError (List String)
  | place, [] => .ok place
  | place, name :: rest =>
    match disk.entry? place with
    | none => .error .notFound
    | some (.file _ _) => .error .notFolder
    | some .folder =>
      if nameLimit < name.utf8ByteSize then .error .nameTooLong
      else disk.walk (if name = ".." then above place else place ++ [name]) rest

def start (path : HostPath) : List String := if path.isAbsolute then ["/"] else []

def names (path : HostPath) : List String :=
  (Text.split '/' path.text).filter fun name => name ≠ "" && name ≠ "."

def checkPath (path : HostPath) : Except FileError Unit :=
  if path.text.toList.contains '\x00' then .error .nulInPath
  else if pathLimit ≤ path.text.utf8ByteSize then .error .nameTooLong
  else .ok ()

def locate (disk : Disk) (path : HostPath) : Except FileError (List String) := do
  checkPath path
  if path.text = "" then throw .notFound
  disk.walk (start path) (names path)

def namesFolder (path : HostPath) : Bool :=
  match (Text.split '/' path.text).getLast? with
  | some "" | some "." | some ".." => true
  | _ => false

def find (disk : Disk) (path : HostPath) : Except FileError (List String × DiskEntry) := do
  let place ← disk.locate path
  match disk.entry? place with
  | none => throw .notFound
  | some .folder => return (place, .folder)
  | some (.file content executable) =>
    if namesFolder path then throw .notFolder
    return (place, .file content executable)

def present (disk : Disk) (path : HostPath) : Bool := (disk.find path).isOk

def isFolder (disk : Disk) (path : HostPath) : Bool :=
  match disk.find path with
  | .error _ => false
  | .ok (_, entry) => entry.isFolder

def content (disk : Disk) (path : HostPath) : Except FileError Content := do
  match ← disk.find path with
  | (_, .folder) => throw .isFolder
  | (_, .file content _) => return content

def read (disk : Disk) (path : HostPath) : Except FileError String := do
  match ← disk.content path with
  | .text written => return written
  | .binary _ => throw .notText

def shown? (disk : Disk) (path : HostPath) : Option String :=
  (disk.content path).toOption.map Content.shown

def write (disk : Disk) (path : HostPath) (content : Content) : Except FileError Disk := do
  let place ← disk.locate path
  match disk.entry? place with
  | some .folder => throw .isFolder
  | none =>
    if namesFolder path then throw .isFolder
    return ⟨disk.entries.insert place (.file content false)⟩
  | some (.file _ executable) =>
    if namesFolder path then throw .notFolder
    return ⟨disk.entries.insert place (.file content executable)⟩

def makeFoldersFrom (disk : Disk) : List String → List String → Except FileError Disk
  | _, [] => .ok disk
  | place, name :: rest =>
    let next := if name = ".." then above place else place ++ [name]
    if nameLimit < name.utf8ByteSize then .error .nameTooLong
    else
      match disk.entry? next with
      | some .folder => disk.makeFoldersFrom next rest
      | some (.file _ _) => .error .notFolder
      | none => makeFoldersFrom ⟨disk.entries.insert next .folder⟩ next rest

def makeFolders (disk : Disk) (path : HostPath) : Except FileError Disk := do
  checkPath path
  disk.makeFoldersFrom (start path) (names path)

def layFile (disk : Disk) (path : HostPath) (content : Content) (executable : Bool) : Disk :=
  let place := start path ++ names path
  match disk.makeFoldersFrom (start path) (names path).dropLast with
  | .ok ready => ⟨ready.entries.insert place (.file content executable)⟩
  | .error _ => disk

def layFolder (disk : Disk) (path : HostPath) : Disk :=
  match disk.makeFolders path with
  | .ok ready => ready
  | .error _ => disk

end Disk

end UefiBuild
