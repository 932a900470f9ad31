import UefiBuild.Script.Tool.Lines

namespace UefiBuild.Script.Tool

def signedCount? (s : String) : Option (Option Char × Nat) :=
  match s.toList with
  | '-' :: rest => (number? (String.ofList rest)).map (some '-', ·)
  | '+' :: rest => (number? (String.ofList rest)).map (some '+', ·)
  | _ => (number? s).map (none, ·)

def parts (title : String) (given : Given) (choose : Bool → Option Char → Nat → List String → List String) :
    Act Unit := do
  let byLines := !given.has 'c'
  let asked := if byLines then (given.value? 'n').getD "10" else (given.value? 'c').getD "10"
  match signedCount? asked with
  | none =>
    let unit := if byLines then "lines" else "bytes"
    Act.report title s!"invalid number of {unit}: '{asked}'" 1
  | some (sign?, count) =>
    let headed := (1 < given.operands.length || given.has 'v') && !given.has 'q'
    let mut first := true
    let names := if given.operands.isEmpty then ["-"] else given.operands
    for name in names do
      match ← inputFor (some count) name with
      | .error error => Act.report title (openComplaint name error) 1
      | .ok text =>
        let shown := if name = "-" then "standard input" else name
        if headed then Act.emit 1 ((if first then "" else "\n") ++ s!"==> {shown} <==\n")
        first := false
        Act.emit 1 (Text.join "" (choose byLines sign? count (countedPieces byLines text)))

def partsForm : OptionForm :=
  { plain := ['q', 'v', 'z', 'f', 'F'], valued := ['n', 'c', 's']
    long := [("lines", 'n'), ("bytes", 'c'), ("quiet", 'q'), ("silent", 'q'), ("verbose", 'v')] }

def firstCount? (arguments : List String) : Option String :=
  match (arguments.headD "").toList with
  | '-' :: c :: cs => if c.isDigit && cs.all Char.isDigit then some (String.ofList (c :: cs)) else none
  | _ => none

def spellCount (arguments : List String) : List String :=
  match firstCount? arguments with
  | some count => s!"-n{count}" :: arguments.tail
  | none => arguments

def head : Tool := fun title arguments => do
  let before ← get
  let reset (used : Nat) : Act Unit :=
    match before.streamOf? 0 with
    | some (_, { channel := .file _, .. }) =>
      modify fun machine =>
        { machine with streams := machine.streams.mapValues fun number stream =>
            if before.opened.get? 0 = some number then
              { stream with position := ((before.streams.get? number).getD stream).position + used }
            else stream }
    | _ => pure ()
  let choose (_ : Bool) (sign? : Option Char) (count : Nat) (pieces : List String) : List String :=
    pieces.take (if sign? = some '-' then pieces.length - count else count)
  Tool.withOptions partsForm 1 (fun title given => do
    parts title given choose
    if given.operands.isEmpty then
      let byLines := !given.has 'c'
      let asked := (given.value? (if byLines then 'n' else 'c')).getD "10"
      match signedCount? asked with
      | some (sign?, count) =>
        let pieces := countedPieces byLines (String.ofList (before.unread 0))
        reset (Text.join "" (choose byLines sign? count pieces)).length
      | none => pure ()) title (spellCount arguments)

def tail : Tool := fun title arguments =>
  match firstCount? arguments, arguments with
  | some count, _ :: _ :: _ :: _ =>
    Act.report title s!"option used in invalid context -- {count}" 1
  | _, _ =>
    Tool.withOptions partsForm 1 (fun title given =>
      parts title given fun _ sign? count pieces =>
        if sign? = some '+' then pieces.drop (count - 1) else pieces.drop (pieces.length - count))
      title (spellCount arguments)

end UefiBuild.Script.Tool
