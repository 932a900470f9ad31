import UefiBuild.Script.Tool.Blocks
import UefiBuild.Script.Tool.Columns
import UefiBuild.Script.Tool.Copy
import UefiBuild.Script.Tool.Difference
import UefiBuild.Script.Tool.Expr
import UefiBuild.Script.Tool.Folders
import UefiBuild.Script.Tool.Letters
import UefiBuild.Script.Tool.Listing
import UefiBuild.Script.Tool.Order
import UefiBuild.Script.Tool.Pieces
import UefiBuild.Script.Tool.Rights
import UefiBuild.Script.Tool.Search
import UefiBuild.Script.Tool.StreamEditor

namespace UefiBuild.Script

namespace Tool

def known : List (String × Tool) :=
  [("true", succeed), ("false", refuse), ("sync", succeed), ("echo", echo), ("basename", basename),
    ("dirname", dirname), ("seq", seq), ("sleep", sleep), ("printenv", printenv), ("expr", expr),
    ("uname", tell "Linux"), ("hostname", tell "localhost"), ("whoami", tell "root"), ("id", identify),
    ("date", tell "Thu Jan  1 00:00:00 UTC 1970"),
    ("dd", dd), ("truncate", truncate),
    ("cp", cp), ("ln", ln), ("install", install), ("mv", mv), ("rm", rm), ("mkdir", mkdir), ("rmdir", rmdir), ("touch", touch),
    ("chmod", chmod), ("ls", ls), ("mktemp", mktemp), ("cat", cat), ("tac", tac), ("rev", rev),
    ("head", head), ("tail", tail), ("wc", wc), ("nl", nl), ("tee", tee), ("cut", cut),
    ("paste", paste), ("tr", tr), ("sort", sort), ("uniq", uniq), ("grep", grep),
    ("egrep", fun title arguments => grep title ("-E" :: arguments)),
    ("fgrep", fun title arguments => grep title ("-F" :: arguments)),
    ("sed", sed), ("cmp", cmp)]

end Tool

def runners : List String := 
  ["sh", "dash", "bash", "env", "xargs", "awk", "mawk", "timeout", "nohup", "nice"]

def isProgram (name : String) : Bool := (Tool.known.lookup name).isSome || runners.contains name

structure Launch where
  program : String
  title : String
  arguments : List String

namespace Launch

def programAt? (path : String) : Option String :=
  ["/bin/", "/usr/bin/"].findSome? fun folder => (Text.afterStart? folder path).filter isProgram

def interpreter? (content : String) : Option (String × List String) :=
  let isBlank (c : Char) : Bool := c = ' ' || c = '\t'
  match content.toList with
  | '#' :: '!' :: rest =>
    let line := (rest.takeWhile (· ≠ '\n')).dropWhile isBlank
    let name := line.takeWhile fun c => !isBlank c && c ≠ '\x00'
    let argument := ((line.drop name.length).dropWhile isBlank).reverse.dropWhile isBlank |>.reverse
    let argument := argument.takeWhile (· ≠ '\x00')
    if name = [] then none
    else some (String.ofList name, if argument = [] then [] else [String.ofList argument])
  | _ => none

/-- Follows a path to the program that the machine starts for it. An interpreter can itself be a file
with an interpreter, up to a few times. -/
def ofPath (machine : Machine) : Nat → String → List String → Except FileError Launch
  | 0, _, _ => .error .notExecutable
  | room + 1, path, arguments => do
    match programAt? path with
    | some program => return { program, title := path, arguments }
    | none =>
      match ← machine.disk.find (machine.path path) with
      | (_, .folder) => throw .permissionDenied
      | (_, .file content executable) =>
        if !executable then throw .permissionDenied
        match interpreter? (ofByteList content.bytes) with
        | none => throw .notExecutable
        | some (interpreter, extra) =>
          ofPath machine room interpreter (extra ++ path :: arguments)

def depth : Nat := 5

def of (machine : Machine) (name : String) (arguments : List String) : Except FileError Launch :=
  if name.toList.contains '/' then ofPath machine depth name arguments
  else if isProgram name then .ok { program := name, title := name, arguments }
  else .error .notFound

end Launch

end UefiBuild.Script
