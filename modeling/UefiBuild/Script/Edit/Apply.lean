import UefiBuild.Script.Edit.Basic
import UefiBuild.Table

namespace UefiBuild.Script.Edit

structure Editing where
  space : List Char := []
  ended : Bool := true
  held : List Char := []
  heldEnded : Bool := true
  input : List (List Char × Bool)
  number : Nat := 0
  output : List Char := []
  open_ : Bool := false
  waiting : List (List Char) := []
  lastPattern? : Option Regex := none
  begun : Table Nat (Option Nat) := ∅
  replaced : Bool := false
  status : Nat := 0
  finished : Bool := false

namespace Editing

/-- Writes a line. One that has not been ended is ended first. -/
def write (editing : Editing) (line : List Char) (ended : Bool) : Editing :=
  let before := if editing.open_ then ['\n'] else []
  { editing with
    output := editing.output ++ before ++ line ++ (if ended then ['\n'] else [])
    open_ := !ended }

def writeWaiting (editing : Editing) : Editing :=
  { editing.waiting.foldl (fun editing line => editing.write line true) editing with waiting := [] }

def isLast (editing : Editing) : Bool := editing.input.isEmpty

def advance? (editing : Editing) : Option Editing :=
  match editing.input with
  | [] => none
  | (line, ended) :: input =>
    some { editing with space := line, ended, input, number := editing.number + 1 }

def fitsPattern (editing : Editing) (pattern? : Option Regex) (folds : Bool) : Bool × Editing :=
  match pattern?.or editing.lastPattern? with
  | none => (false, editing)
  | some pattern =>
    (pattern.occursIn folds editing.space, { editing with lastPattern? := some pattern })

def isAt (editing : Editing) : Address → Bool × Editing
  | .line number => (editing.number = number, editing)
  | .every first step =>
    (if step = 0 then editing.number = first
      else first ≤ editing.number && (editing.number - first) % step = 0, editing)
  | .last => (editing.isLast, editing)
  | .fits pattern? folds => editing.fitsPattern pattern? folds
  | .later _ => (false, editing)

def selects (editing : Editing) (place : Nat) (step : EditStep) : Bool × Editing :=
  let (found, editing) : Bool × Editing :=
    match step.first?, step.second? with
    | none, _ => (true, editing)
    | some first, none => editing.isAt first
    | some first, some second =>
      match editing.begun.get? place with
      | some end? =>
        let (ends, editing) : Bool × Editing :=
          match end?, second with
          | some number, _ => (number ≤ editing.number, editing)
          | none, second => editing.isAt second
        if ends then
          let past : Bool := end?.any (· < editing.number)
          (!past, { editing with begun := editing.begun.filter fun other _ => other ≠ place })
        else (true, editing)
      | none =>
        let (starts, editing) := editing.isAt first
        if !starts then (false, editing)
        else
          let end? : Option Nat :=
            match second with
            | .line number => some number
            | .later count => some (editing.number + count)
            | _ => none
          let past : Bool :=
            match second with
            | .last => editing.isLast
            | _ => end?.any (· ≤ editing.number)
          if past then (true, editing)
          else (true, { editing with begun := editing.begun.insert place end? })
  (found != step.negated, editing)

def fill (parts : List Substitute) (found : Regex.Match) : List Char :=
  let write (state : List Char × Option Char × Option Char) (cs : List Char) :
      List Char × Option Char × Option Char :=
    let (done, whole?, once?) := state
    let cs :=
      match whole? with
      | some 'U' => cs.map Char.toUpper
      | some 'L' => cs.map Char.toLower
      | _ => cs
    match once?, cs with
    | some 'u', c :: rest => (done ++ c.toUpper :: rest, whole?, none)
    | some 'l', c :: rest => (done ++ c.toLower :: rest, whole?, none)
    | _, cs => (done ++ cs, whole?, once?)
  let start : List Char × Option Char × Option Char := ([], none, none)
  (parts.foldl (fun state part =>
    match part with
    | .char c => write state [c]
    | .group 0 => write state found.found
    | .group number => write state ((found.groups.lookup number).getD [])
    | .casing 'E' => (state.1, none, state.2.2)
    | .casing c =>
      if c = 'u' || c = 'l' then (state.1, state.2.1, some c) else (state.1, some c, state.2.2))
    start).1

def substitute (editing : Editing) (change : Substitution) : Editing :=
  match change.pattern?.or editing.lastPattern? with
  | none => editing
  | some pattern =>
    let (space, replaced) :=
      pattern.replace change.folds (fill change.parts) change.everywhere change.number editing.space
    let editing :=
      { editing with space, replaced := editing.replaced || replaced, lastPattern? := some pattern }
    if replaced && change.prints then editing.write space editing.ended else editing

def endCycle (editing : Editing) (quiet : Bool) : Editing :=
  (if quiet then editing else editing.write editing.space editing.ended).writeWaiting

end Editing

def afterBlock (steps : List EditStep) (place : Nat) : Nat :=
  let rec go : List EditStep → Nat → Nat → Nat
    | [], place, _ => place
    | step :: rest, place, depth =>
      match step.action with
      | .opens => go rest (place + 1) (depth + 1)
      | .closes => if depth = 0 then place + 1 else go rest (place + 1) (depth - 1)
      | _ => go rest (place + 1) depth
  go (steps.drop place) place 0

def placeOf (steps : List EditStep) (name : String) : Nat :=
  if name = "" then steps.length
  else
    (steps.findIdx? fun step =>
      match step.action with
      | .label other => other = name
      | _ => false).getD steps.length

def run (steps : List EditStep) (quiet : Bool) : Nat → Nat → Editing → Editing
  | 0, _, editing => editing
  | room + 1, place, editing =>
    if editing.finished then editing
    else
      let restart (editing : Editing) : Editing :=
        match editing.advance? with
        | none => editing
        | some editing => run steps quiet room 0 { editing with replaced := false }
      match steps[place]? with
      | none => restart (editing.endCycle quiet)
      | some step =>
        let (selected, editing) := editing.selects place step
        if !selected then
          match step.action with
          | .opens => run steps quiet room (afterBlock steps (place + 1)) editing
          | _ => run steps quiet room (place + 1) editing
        else
          let go (editing : Editing) : Editing := run steps quiet room (place + 1) editing
          match step.action with
          | .opens | .closes | .label _ => go editing
          | .substitute change => go (editing.substitute change)
          | .translate pairs =>
            go { editing with space := editing.space.map fun c => (pairs.lookup c).getD c }
          | .delete => restart editing.writeWaiting
          | .deleteFirst =>
            if editing.space.contains '\n' then
              let space := (editing.space.dropWhile (· ≠ '\n')).tail
              run steps quiet room 0 { editing.writeWaiting with space }
            else restart editing.writeWaiting
          | .print => go (editing.write editing.space editing.ended)
          | .printFirst => go (editing.write (editing.space.takeWhile (· ≠ '\n')) true)
          | .quit status prints =>
            let editing := if prints then editing.endCycle quiet else editing
            { editing with status, finished := true }
          | .showNumber => go (editing.write (Nat.toDigits 10 editing.number) true)
          | .next =>
            if editing.isLast then { editing.endCycle quiet with finished := true }
            else
              let editing := editing.endCycle quiet
              go (editing.advance?.getD editing)
          | .appendNext =>
            if editing.isLast then { editing.endCycle quiet with finished := true }
            else
              let before := editing.space
              let editing := editing.writeWaiting
              let editing := editing.advance?.getD editing
              go { editing with space := before ++ '\n' :: editing.space }
          | .holdSpace => go { editing with held := editing.space, heldEnded := editing.ended }
          | .holdMore =>
            go { editing with
              held := editing.held ++ '\n' :: editing.space
              heldEnded := editing.heldEnded || editing.ended }
          | .getHeld => go { editing with space := editing.held, ended := editing.heldEnded }
          | .getMore =>
            go { editing with
              space := editing.space ++ '\n' :: editing.held
              ended := editing.ended || editing.heldEnded }
          | .exchange =>
            go { editing with
              space := editing.held, ended := editing.heldEnded
              held := editing.space, heldEnded := editing.ended }
          | .after text => go { editing with waiting := editing.waiting ++ [text] }
          | .before text => go (editing.write text true)
          | .change text =>
            let inRange := step.second?.isSome && !step.negated && (editing.begun.get? place).isSome
            restart ((if inRange then editing else editing.write text true).writeWaiting)
          | .branch condition name =>
            match condition with
            | none => run steps quiet room (placeOf steps name) editing
            | some wanted =>
              let taken := editing.replaced = wanted
              let editing := { editing with replaced := false }
              if taken then run steps quiet room (placeOf steps name) editing else go editing

def linesOf (text : String) : List (List Char × Bool) :=
  let pieces := Text.pieces (· == '\n') text.toList
  let whole := pieces.dropLast.map fun line => (line, true)
  match pieces.getLast? with
  | some [] | none => whole
  | some last => whole ++ [(last, false)]

def room : Nat := 200000

def apply (steps : List EditStep) (quiet : Bool) (input : List (List Char × Bool)) : String × Nat :=
  let fromStart := steps.zipIdx.filterMap fun (step, place) =>
    match step.first? with
    | some (.line 0) => some (place, none)
    | _ => none
  let start : Editing := { input, begun := Table.ofList fromStart }
  match start.advance? with
  | none => ("", 0)
  | some editing =>
    let editing := run steps quiet room 0 editing
    (String.ofList editing.output, editing.status)

end UefiBuild.Script.Edit
