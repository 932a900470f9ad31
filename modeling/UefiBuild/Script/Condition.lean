import UefiBuild.Script.Machine
import UefiBuild.Script.Sum

namespace UefiBuild.Script

inductive ConditionToken
  | nothing
  | operand
  | not
  | and
  | or
  | opens
  | closes
  | unary
  | binary
  deriving DecidableEq

structure Condition where
  rest : List String
  machine : Machine

abbrev Asking (α : Type) : Type := ExceptT String (StateM Condition) α

namespace Condition

def unaryOperators : List String :=
  ["-r", "-w", "-x", "-f", "-d", "-c", "-b", "-p", "-u", "-g", "-k", "-s", "-t", "-z", "-n", "-h",
    "-O", "-G", "-L", "-S", "-e"]

def binaryOperators : List String :=
  ["=", "!=", "<", ">", "-eq", "-ne", "-ge", "-gt", "-le", "-lt", "-nt", "-ot", "-ef"]

def operator? (s : String) : Option ConditionToken :=
  if s ∈ unaryOperators then some .unary
  else if s ∈ binaryOperators then some .binary
  else
    match s with
    | "!" => some .not
    | "-a" => some .and
    | "-o" => some .or
    | "(" => some .opens
    | ")" => some .closes
    | _ => none

def isOperand : List String → Bool
  | [] => true
  | [_] => false
  | next :: after :: _ => operator? next = some .binary && after ≠ ")"

def classify : List String → ConditionToken
  | [] => .nothing
  | s :: rest =>
    match operator? s with
    | none => .operand
    | some found =>
      if found = .unary && isOperand rest then .operand
      else if found = .opens && rest.isEmpty then .operand
      else found

def token : Asking ConditionToken := return classify (← get).rest

def next : Asking String := do
  let s := (← get).rest.headD ""
  modify fun condition => { condition with rest := condition.rest.tail }
  return s

def nextToken : Asking ConditionToken := return classify ((← get).rest.drop 1)

def number (s : String) : Asking Int := do
  let cs := s.toList.dropWhile Sum.isSpace
  let (sign, digits) : Int × List Char :=
    match cs with
    | '-' :: rest => (-1, rest)
    | '+' :: rest => (1, rest)
    | rest => (1, rest)
  let found := digits.takeWhile Char.isDigit
  if found = [] || !(digits.drop found.length).all Sum.isSpace then throw s!"Illegal number: {s}"
  return sign * Sum.ofDigits 10 found

def fileHolds (machine : Machine) (operator name : String) : Bool :=
  match operator with
  | "-f" => machine.isPresent name && !machine.isFolder name && (Machine.standing? name).isNone
  | "-d" => machine.isFolder name
  | "-s" => machine.isFolder name || ((machine.readFile name).toOption.any (· ≠ ""))
  | "-x" =>
    machine.isFolder name ||
      match machine.disk.locate (machine.path name) with
      | .ok place =>
        match machine.disk.entry? place with
        | some (.file _ executable) => executable
        | _ => false
      | .error _ => false
  | "-c" => (Machine.standing? name).isSome
  | "-e" | "-r" | "-w" | "-O" | "-G" => machine.isPresent name
  | _ => false

def unary (operator operand : String) : Asking Bool := do
  match operator with
  | "-z" => return operand = ""
  | "-n" => return operand ≠ ""
  | "-t" =>
    discard (number operand)
    return false
  | operator => return fileHolds (← get).machine operator operand

def binary (operator first second : String) : Asking Bool := do
  match operator with
  | "=" => return first = second
  | "!=" => return first ≠ second
  | "<" => return first < second
  | ">" => return second < first
  | "-ef" =>
    let machine := (← get).machine
    let place (name : String) : Option (List String) :=
      (machine.disk.locate (machine.path name)).toOption
    return machine.isPresent first && place first = place second
  | "-nt" | "-ot" => return false
  | operator =>
    let a ← number first
    let b ← number second
    match operator with
    | "-eq" => return a = b
    | "-ne" => return a ≠ b
    | "-ge" => return a ≥ b
    | "-gt" => return a > b
    | "-le" => return a ≤ b
    | _ => return a < b

mutual

def oneOf : Nat → ConditionToken → Asking Bool
  | 0, _ => return false
  | room + 1, found => do
    let first ← allOf room found
    if (← nextToken) = .or then
      discard next
      discard next
      let second ← oneOf room (← token)
      return first || second
    else return first

def allOf : Nat → ConditionToken → Asking Bool
  | 0, _ => return false
  | room + 1, found => do
    let first ← negated room found
    if (← nextToken) = .and then
      discard next
      discard next
      let second ← allOf room (← token)
      return first && second
    else return first

def negated : Nat → ConditionToken → Asking Bool
  | 0, _ => return false
  | room + 1, found => do
    if found = .not then
      let after ← nextToken
      if after ≠ .nothing then discard next
      return !(← negated room after)
    else single room found

def single : Nat → ConditionToken → Asking Bool
  | 0, _ => return false
  | room + 1, found => do
    match found with
    | .nothing => return false
    | .opens =>
      discard next
      let inside ← token
      if inside = .closes then return false
      else
        let result ← oneOf room inside
        discard next
        if (← token) ≠ .closes then throw "closing paren expected"
        return result
    | .unary =>
      let operator ← next
      match (← get).rest with
      | [] => throw s!"{operator}: argument expected"
      | operand :: _ => unary operator operand
    | _ =>
      if (← nextToken) = .binary then
        let first ← next
        let operator ← next
        match (← get).rest with
        | [] => throw s!"{operator}: argument expected"
        | second :: _ => binary operator first second
      else
        match (← get).rest with
        | [] => return false
        | operand :: _ => return operand ≠ ""

end

def holds (machine : Machine) (arguments : List String) : Except String Bool :=
  let ask (arguments : List String) (binaryFirst : Bool) : Except String Bool :=
    let all : Asking Bool := do
      let found ← if binaryFirst then pure .operand else token
      let result ← oneOf (4 * arguments.length + 8) found
      match (← get).rest with
      | left :: _ :: _ => throw s!"{left}: unexpected operator"
      | _ => return result
    (all.run { rest := arguments, machine }).1
  let counted : Nat → List String → Except String Bool := fun count arguments =>
    let inner : Option (List String) :=
      match arguments with
      | "(" :: rest => if rest.getLast? = some ")" then some rest.dropLast else none
      | _ => none
    match count, arguments with
    | 3, first :: operator :: rest =>
      if operator? operator = some .binary then ask (first :: operator :: rest) true
      else
        match inner, first with
        | some inside, _ => ask inside false
        | none, "!" => (ask (operator :: rest) false).map not
        | none, _ => ask arguments false
    | 4, first :: rest =>
      match inner, first with
      | some inside, _ => ask inside false
      | none, "!" =>
        match rest with
        | a :: operator :: others =>
          if operator? operator = some .binary then (ask (a :: operator :: others) true).map not
          else (ask rest false).map not
        | rest => (ask rest false).map not
      | none, _ => ask arguments false
    | _, arguments => ask arguments false
  counted arguments.length arguments

end Condition

end UefiBuild.Script
