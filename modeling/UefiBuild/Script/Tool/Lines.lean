import UefiBuild.Script.Edit.Apply
import UefiBuild.Script.Sum
import UefiBuild.Script.Tool.Options

namespace UefiBuild.Script.Tool

def number? (s : String) : Option Nat :=
  let cs := s.toList
  if cs ≠ [] && cs.all Char.isDigit then some (Sum.ofDigits 10 cs).toNat else none

def numbered (all : Bool) (lines : List String) : List String :=
  let rec go : Nat → List String → List String
    | _, [] => []
    | n, line :: rest =>
      if all || line ≠ "" then
        let digits := toString n
        let gap := String.ofList (List.replicate (6 - digits.length) ' ')
        s!"{gap}{digits}\t{line}" :: go (n + 1) rest
      else line :: go n rest
  go 1 lines

def cat : Tool :=
  Tool.withOptions
    { plain := ['n', 'b', 'u', 's', 'E', 'T', 'A', 'e', 't', 'v']
      long := [("number", 'n'), ("number-nonblank", 'b'), ("show-ends", 'E'), ("show-tabs", 'T')] } 1
    fun title given => do
      let texts ← Tool.inputs title Tool.plainComplaint 1 given.operands
      let text := Text.join "" (texts.map Prod.snd)
      let plain := given.flags.all fun flag => flag.1 = 'u'
      if plain then Act.emit 1 text
      else
        let open_ := text ≠ "" && !Text.endsWith "\n" text
        let lines := linesIn text
        let lines :=
          if given.has 'b' then numbered false lines
          else if given.has 'n' then numbered true lines
          else lines
        let has (letters : List Char) : Bool := letters.any given.has
        let lines := if has ['T', 't', 'A'] then lines.map (Text.replace "\t" "^I") else lines
        let lines := if has ['E', 'e', 'A'] then lines.map (· ++ "$") else lines
        let written := ofLines lines
        Act.emit 1 (if open_ then (Text.beforeEnd? "\n" written).getD written else written)

def countedPieces (byLines : Bool) (text : String) : List String :=
  if byLines then
    (Edit.linesOf text).map fun (line, ended) => String.ofList (if ended then line ++ ['\n'] else line)
  else text.toList.map fun c => String.singleton c

def tac : Tool :=
  Tool.withOptions {} 1 fun title given => do
    for (_, text) in ← Tool.inputs title Tool.openComplaint 1 given.operands do
      Act.emit 1 (Text.join "" (countedPieces true text).reverse)

def rev : Tool :=
  Tool.withOptions {} 1 fun title given => do
    let complaint (name : String) (error : FileError) : String := s!"cannot open {name}: {reason error}"
    for (_, text) in ← Tool.inputs title complaint 1 given.operands do
      Act.emit 1 (ofLines ((linesIn text).map fun line => String.ofList line.toList.reverse))

def nl : Tool :=
  Tool.withOptions { valued := ['b', 'w', 's', 'n', 'v'] } 1 fun title given => do
    let texts ← Tool.inputs title Tool.plainComplaint 1 given.operands
    let lines := texts.flatMap fun row => linesIn row.2
    let shown := (numbered (given.value? 'b' = some "a") lines).zip lines
    Act.emit 1 (ofLines (shown.map fun (line, plain) => if line = plain then "       " else line))

def tee : Tool :=
  Tool.withOptions { plain := ['a', 'i', 'p'], long := [("append", 'a')] } 1 fun title given => do
    let text ← Act.takeAll 0
    for name in given.operands do
      let machine ← get
      let before := if given.has 'a' then ((machine.readFile name).toOption).getD "" else ""
      match machine.writeFile name (before ++ text) with
      | .ok machine => set machine
      | .error error => Act.report title (Tool.plainComplaint name error) 1
    Act.emit 1 text

def counts (text : String) : List Nat :=
  let cs := text.toList
  let words := (Text.pieces Sum.isSpace cs).filter fun word => !word.isEmpty
  let longest := ((linesIn text).map String.length).foldl max 0
  [cs.count '\n', words.length, cs.length, cs.length, longest]

def wc : Tool :=
  Tool.withOptions
    { plain := ['l', 'w', 'm', 'c', 'L']
      long := [("lines", 'l'), ("words", 'w'), ("chars", 'm'), ("bytes", 'c'),
        ("max-line-length", 'L')] } 1 fun title given => do
    let letters := ['l', 'w', 'm', 'c', 'L']
    let chosen := letters.map given.has
    let chosen := if chosen.any id then chosen else [true, true, false, true, false]
    let single := (chosen.filter id).length = 1
    let texts ← Tool.inputs title Tool.plainComplaint 1 given.operands
    let pick (numbers : List Nat) : List Nat :=
      (numbers.zip chosen).filterMap fun (n, wanted) => if wanted then some n else none
    let rows := texts.map fun (name, text) =>
      (if given.operands.isEmpty then "" else name, pick (counts text))
    let total := (texts.map fun row => row.2.length).foldl (· + ·) 0
    let unsized := given.operands.isEmpty || texts.any fun row => row.1 = "-"
    let width :=
      if given.operands.length ≤ 1 && single then 1
      else max (toString total).length (if unsized then 7 else 1)
    let rows :=
      if 1 < given.operands.length then
        rows ++ [("total", rows.foldl (fun all row => all.zipWith (· + ·) row.2)
          (List.replicate (pick [0, 0, 0, 0, 0]).length 0))]
      else rows
    let shown (n : Nat) : String :=
      let digits := toString n
      String.ofList (List.replicate (width - digits.length) ' ') ++ digits
    for (name, numbers) in rows do
      let line := Text.join " " (numbers.map shown)
      Act.emit 1 ((if name = "" then line else line ++ " " ++ name) ++ "\n")

end UefiBuild.Script.Tool
