import UefiBuild.Script.Printing
import UefiBuild.Script.Tool.Lines

namespace UefiBuild.Script.Tool

structure Range where
  low : Nat
  high? : Option Nat

def Range.holds (range : Range) (n : Nat) : Bool := range.low ≤ n && range.high?.all (n ≤ ·)

def readRanges (unit : String) (list : String) : Except String (List Range) :=
  let bad (part : String) : Except String Range := .error s!"invalid {unit} '{part}'"
  (Text.split ',' list).mapM fun part =>
    match Text.cutAtFirst? '-' part with
    | none =>
      match number? part with
      | some 0 => .error (if unit = "field value" then "fields are numbered from 1"
          else "byte/character positions are numbered from 1")
      | some n => .ok { low := n, high? := some n }
      | none => bad part
    | some ("", high) =>
      match number? high with
      | some n => .ok { low := 1, high? := some n }
      | none => if high = "" then .error "invalid range with no endpoint: -" else bad part
    | some (low, "") =>
      match number? low with
      | some n => .ok { low := n, high? := none }
      | none => bad part
    | some (low, high) =>
      match number? low, number? high with
      | some low, some high =>
        if high < low then .error "invalid decreasing range" else .ok { low, high? := some high }
      | _, _ => bad part

def cutLine (given : Given) (ranges : List Range) (delimiter : Char) (line : String) : Option String :=
  let chosen (n : Nat) : Bool := ranges.any (·.holds n) != given.has 'C'
  if given.has 'f' then
    let fields := Text.split delimiter line
    if fields.length = 1 then if given.has 's' then none else some line
    else
      let kept := fields.zipIdx.filter fun (_, place) => chosen (place + 1)
      some (Text.join ((given.value? 'o').getD (String.singleton delimiter)) (kept.map Prod.fst))
  else
    let kept := line.toList.zipIdx.filter fun (_, place) => chosen (place + 1)
    some (String.ofList (kept.map Prod.fst))

def cut : Tool :=
  Tool.withOptions
    { plain := ['s', 'n', 'C'], valued := ['f', 'c', 'b', 'd', 'o']
      long := [("fields", 'f'), ("characters", 'c'), ("bytes", 'b'), ("delimiter", 'd'),
        ("only-delimited", 's'), ("complement", 'C'), ("output-delimiter", 'o')] } 1
    fun title given => do
      let lists := given.flags.filter fun flag => flag.1 ∈ ['f', 'c', 'b']
      let delimiter := ((given.value? 'd').getD "\t").toList
      match lists with
      | [] => Tool.misused title "you must specify a list of bytes, characters, or fields" 1
      | _ :: _ :: _ => Tool.misused title "only one list may be specified" 1
      | [(letter, list)] =>
        if 1 < delimiter.length then
          Tool.misused title "the delimiter must be a single character" 1
        else if given.has 'd' && letter ≠ 'f' then
          Tool.misused title
            "an input delimiter may be specified only when operating on fields" 1
        else
          match readRanges (if letter = 'f' then "field value" else "byte or character range") list with
          | .error what => Tool.misused title what 1
          | .ok ranges =>
            for (_, text) in ← Tool.inputs title Tool.plainComplaint 1 given.operands do
              Act.emit 1 (ofLines ((linesIn text).filterMap
                (cutLine given ranges (delimiter.headD '\x00'))))

def sideBySide (separators : List Char) : Nat → List (List String) → List String
  | 0, _ => []
  | room + 1, columns =>
    if columns.all List.isEmpty then []
    else
      let cells := columns.map fun column => column.headD ""
      let line := (cells.tail.zipIdx).foldl (fun line (cell, place) =>
        line ++ String.singleton (separators.getD (place % separators.length) '\t') ++ cell)
        (cells.headD "")
      line :: sideBySide separators room (columns.map List.tail)

def paste : Tool :=
  Tool.withOptions
    { plain := ['s'], valued := ['d'], long := [("serial", 's'), ("delimiters", 'd')] } 1
    fun title given => do
      let texts ← Tool.inputs title Tool.plainComplaint 1 given.operands
      let columns := texts.map fun row => linesIn row.2
      let written := ((given.value? 'd').getD "\t").toList
      let separators := (Printing.unescape (written.length + 1) written).1
      let separators := if separators.isEmpty then ['\x00'] else separators
      if given.has 's' then
        for column in columns do
          Act.emit 1 (ofLines (sideBySide separators 1 (column.map fun line => [line])))
      else
        let longest := (columns.map List.length).foldl max 0
        Act.emit 1 (ofLines (sideBySide separators longest columns))

end UefiBuild.Script.Tool
