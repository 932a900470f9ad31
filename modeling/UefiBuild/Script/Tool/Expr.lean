import UefiBuild.Script.Regex
import UefiBuild.Script.Tool.Words

namespace UefiBuild.Script.Tool

abbrev Expressing (α : Type) : Type := ExceptT String (StateM (List String)) α

namespace Expr

def levels : List (List String) :=
  [["|"], ["&"], ["<", "<=", "=", "==", "!=", ">=", ">"], ["+", "-"], ["*", "/", "%"], [":"]]

def isNull (s : String) : Bool := s = "" || integer? s = some 0

def ofBool (b : Bool) : String := if b then "1" else "0"

def fit (text pattern : String) : Expressing String := do
  match Regex.read false pattern with
  | .error what => throw what
  | .ok (regex, groups) =>
    match (Regex.seq .lineStart regex).find? false none text.toList with
    | none => return if groups = 0 then "0" else ""
    | some found =>
      return if groups = 0 then toString found.found.length
        else String.ofList ((found.groups.lookup 1).getD [])

def apply (operator a b : String) : Expressing String := do
  let number (s : String) : Expressing Int :=
    match integer? s with
    | some n => return n
    | none => throw "non-integer argument"
  let compared (holds : Ordering → Bool) : Expressing String :=
    match integer? a, integer? b with
    | some m, some n => return ofBool (holds (compare m n))
    | _, _ => return ofBool (holds (compare a b))
  match operator with
  | "|" => return if !isNull a then a else if isNull b then "0" else b
  | "&" => return if isNull a || isNull b then "0" else a
  | "<" => compared (· == .lt)
  | "<=" => compared (· != .gt)
  | "=" | "==" => compared (· == .eq)
  | "!=" => compared (· != .eq)
  | ">=" => compared (· != .lt)
  | ">" => compared (· == .gt)
  | ":" => fit a b
  | operator =>
    let m ← number a
    let n ← number b
    match operator with
    | "+" => return toString (m + n)
    | "-" => return toString (m - n)
    | "*" => return toString (m * n)
    | "/" => if n = 0 then throw "division by zero" else return toString (m.tdiv n)
    | _ => if n = 0 then throw "division by zero" else return toString (m.tmod n)

def next (before : String) : Expressing String := do
  match ← get with
  | [] => throw (if before = "" then "syntax error: missing argument"
      else s!"syntax error: missing argument after '{before}'")
  | word :: rest =>
    set rest
    return word

mutual

def binary : Nat → String → List (List String) → Expressing String
  | 0, _, _ => throw "out of room"
  | room + 1, before, [] => primary room before
  | room + 1, before, operators :: tighter => do
    let first ← binary room before tighter
    binaryRest room operators tighter first

def binaryRest : Nat → List String → List (List String) → String → Expressing String
  | 0, _, _, _ => throw "out of room"
  | room + 1, operators, tighter, first => do
    match ← get with
    | operator :: rest =>
      if operators.contains operator then
        set rest
        let second ← binary room operator tighter
        binaryRest room operators tighter (← apply operator first second)
      else return first
    | [] => return first

def primary : Nat → String → Expressing String
  | 0, _ => throw "out of room"
  | room + 1, before => do
    match ← next before with
    | "+" => next "+"
    | "(" =>
      let inside ← binary room "(" levels
      match ← get with
      | ")" :: rest =>
        set rest
        return inside
      | [] => throw s!"syntax error: expecting ')' after '{inside}'"
      | word :: _ => throw s!"syntax error: expecting ')' instead of '{word}'"
    | "length" => return toString (← primary room "length").length
    | "match" =>
      let text ← primary room "match"
      fit text (← primary room text)
    | "index" =>
      let text ← primary room "index"
      let set_ ← primary room text
      let place := text.toList.findIdx fun c => set_.toList.contains c
      return if place < text.length then toString (place + 1) else "0"
    | "substr" =>
      let text ← primary room "substr"
      let start ← primary room text
      let length ← primary room start
      match integer? start, integer? length with
      | some start, some length =>
        if start ≤ 0 || length ≤ 0 then return ""
        else return String.ofList ((text.toList.drop (start.toNat - 1)).take length.toNat)
      | _, _ => return ""
    | word => return word

end

end Expr

def expr : Tool := fun title arguments => do
  let arguments := if arguments.head? = some "--" then arguments.tail else arguments
  if arguments.isEmpty then Tool.misused title "missing operand" 2
  else
    let room := 16 * arguments.length + 16
    match (Expr.binary room "" Expr.levels).run arguments with
    | (.error what, _) => Act.report title what 2
    | (.ok _, extra :: _) => Act.report title s!"syntax error: unexpected argument '{extra}'" 2
    | (.ok value, []) =>
      Act.emit 1 (value ++ "\n")
      Act.setStatus (if Expr.isNull value then 1 else 0)

end UefiBuild.Script.Tool
