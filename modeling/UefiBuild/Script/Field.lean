import UefiBuild.Script.Glob
import UefiBuild.Script.Machine

namespace UefiBuild.Script

inductive Mark
  /-- A character, with whether it stands for itself in a pattern, and whether it came from outside
  the script, so that it can part the word. -/
  | char (c : GlobChar) (foreign : Bool)
  | word
  | border

abbrev Field : Type := List GlobChar

namespace Field

def text (field : Field) : String := String.ofList (field.map Prod.fst)

def marks (cs : List Char) (quoted foreign : Bool) : List Mark :=
  cs.map fun c => .char (c, quoted) foreign

def whole (marks : List Mark) : Field :=
  marks.filterMap fun mark =>
    match mark with
    | .char c _ => some c
    | _ => none

def defaultSeparators : List Char := [' ', '\t', '\n']

def isGap (c : Char) : Bool := defaultSeparators.contains c

structure Parting where
  done : List Field := []
  current? : Option Field := none
  afterGap : Bool := false

namespace Parting

def finish (parting : Parting) : List Field :=
  match parting.current? with
  | some field => field :: parting.done
  | none => parting.done

def add (parting : Parting) (cs : Field) : Parting :=
  { parting with current? := some (parting.current?.getD [] ++ cs), afterGap := false }

def step (separators : List Char) (parting : Parting) : Mark → Parting
  | .word => parting.add []
  | .border => { done := parting.finish, current? := none, afterGap := parting.current?.isSome }
  | .char c foreign =>
    if !(foreign && separators.contains c.1) then parting.add [c]
    else if isGap c.1 then
      { parting with
        done := parting.finish
        current? := none
        afterGap := parting.afterGap || parting.current?.isSome }
    else if parting.current?.isSome || parting.afterGap then { done := parting.finish }
    else { done := [] :: parting.done }

end Parting

/-- Parts a word at separators that came from outside. Gaps count once, and not at the ends. -/
def part (separators : List Char) (marks : List Mark) : List Field :=
  (marks.foldl (Parting.step separators) {}).finish.reverse

abbrev LineChar : Type := Char × Bool

def parts (separators : List Char) (c : LineChar) : Bool := !c.2 && separators.contains c.1

def partsAsGap (separators : List Char) (c : LineChar) : Bool := parts separators c && isGap c.1

def dropGapsAtEnd (separators : List Char) (cs : List LineChar) : List LineChar :=
  (cs.reverse.dropWhile (partsAsGap separators)).reverse

/-- What goes to the last name of a line: all that is left. A separator at the end goes only if there
is no other. -/
def lastOfLine (separators : List Char) (cs : List LineChar) : List LineChar :=
  let field := cs.takeWhile fun c => !parts separators c
  let after := (cs.drop field.length).dropWhile (partsAsGap separators)
  let after :=
    match after with
    | c :: rest => if parts separators c then rest.dropWhile (partsAsGap separators) else c :: rest
    | [] => []
  if after.isEmpty then field else dropGapsAtEnd separators cs

def ofLine (separators : List Char) : Nat → List LineChar → List String
  | 0, _ => []
  | count + 1, cs =>
    let cs := cs.dropWhile (partsAsGap separators)
    let shown (cs : List LineChar) : String := String.ofList (cs.map Prod.fst)
    if count = 0 then [shown (lastOfLine separators cs)]
    else
      let field := cs.takeWhile fun c => !parts separators c
      let after := (cs.drop field.length).dropWhile (partsAsGap separators)
      let after :=
        match after with
        | c :: rest => if parts separators c then rest else c :: rest
        | [] => []
      shown field :: ofLine separators count after

def pathParts (field : Field) : List (Field × Field) :=
  let isSlash (c : GlobChar) : Bool := c.1 = '/'
  let rec go : Nat → Field → List (Field × Field)
    | 0, _ | _, [] => []
    | room + 1, cs =>
      let name := cs.takeWhile fun c => !isSlash c
      let rest := cs.drop name.length
      let slashes := rest.takeWhile isSlash
      (name, slashes) :: go room (rest.drop slashes.length)
  go (field.length + 1) field

def pathsFrom (machine : Machine) : String → List (Field × Field) → List String
  | path, [] => if machine.isPresent path then [path] else []
  | path, (name, slashes) :: rest =>
    if !Glob.isPattern name then pathsFrom machine (path ++ text name ++ text slashes) rest
    else
      let parts := Glob.ofChars name
      let hidden := name.head?.any fun c => c.1 = '.'
      let inside := machine.namesIn path
      let names := (if hidden then "." :: ".." :: inside else inside).filter fun other =>
        (hidden || !Text.startsWith "." other) && Glob.matchesAll parts other.toList
      let names := if slashes.isEmpty then names else names.filter fun other =>
        machine.isFolder (path ++ other)
      names.flatMap fun other => pathsFrom machine (path ++ other ++ text slashes) rest

def words (machine : Machine) (field : Field) : List String :=
  if machine.isOn 'f' || !Glob.isPattern field then [text field]
  else
    match pathsFrom machine "" (pathParts field) with
    | [] => [text field]
    | paths => paths

end Field

end UefiBuild.Script
