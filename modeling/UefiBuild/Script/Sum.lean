import UefiBuild.Script.Reader

namespace UefiBuild.Script

inductive SumToken
  | number (n : Int)
  | name (s : String)
  | operator (s : String)
  | junk

structure Sum where
  tokens : List SumToken
  values : Table String String
  text : String

abbrev Summing (α : Type) : Type := ExceptT String (StateM Sum) α

namespace Sum

def operators : List String :=
  ["<<=", ">>=", "<<", ">>", "<=", ">=", "==", "!=", "&&", "||", "+=", "-=", "*=", "/=", "%=", "&=",
    "^=", "|=", "+", "-", "*", "/", "%", "&", "^", "|", "~", "!", "<", ">", "=", "(", ")", "?", ":"]

def assigning : List String := ["=", "<<=", ">>=", "+=", "-=", "*=", "/=", "%=", "&=", "^=", "|="]

def levels : List (List String) :=
  [["||"], ["&&"], ["|"], ["^"], ["&"], ["==", "!="], ["<=", ">=", "<", ">"], ["<<", ">>"],
    ["+", "-"], ["*", "/", "%"]]

def digitValue (c : Char) : Nat :=
  if c.isDigit then c.toNat - '0'.toNat else c.toLower.toNat - 'a'.toNat + 10

def isHexDigit (c : Char) : Bool := c.isDigit || ('a' ≤ c.toLower && c.toLower ≤ 'f')

def ofDigits (base : Nat) (digits : List Char) : Int :=
  digits.foldl (fun n c => base * n + digitValue c) 0

/-- Numbers are kept to 64 bits with a sign. -/
def wrap (n : Int) : Int := n.bmod 18446744073709551616

def largest : Int := 9223372036854775807

def readNumber (cs : List Char) : Int × List Char :=
  let clamp (n : Int) : Int := if largest < n then largest else n
  match cs with
  | '0' :: x :: c :: rest =>
    if (x = 'x' || x = 'X') && isHexDigit c then
      (clamp (ofDigits 16 ((c :: rest).takeWhile isHexDigit)), (c :: rest).dropWhile isHexDigit)
    else
      let octal (c : Char) : Bool := '0' ≤ c && c ≤ '7'
      (clamp (ofDigits 8 (cs.takeWhile octal)), cs.dropWhile octal)
  | '0' :: _ =>
    let octal (c : Char) : Bool := '0' ≤ c && c ≤ '7'
    (ofDigits 8 (cs.takeWhile octal), cs.dropWhile octal)
  | cs => (clamp (ofDigits 10 (cs.takeWhile Char.isDigit)), cs.dropWhile Char.isDigit)

def isSpace (c : Char) : Bool := c ∈ [' ', '\t', '\n', '\r', '\x0b', '\x0c']

def cut : Nat → List Char → List SumToken
  | 0, _ | _, [] => []
  | room + 1, c :: rest =>
    if isSpace c then cut room rest
    else if c.isDigit then
      let (n, after) := readNumber (c :: rest)
      .number n :: cut room after
    else if isNameStart c then
      .name (String.ofList ((c :: rest).takeWhile isNamePart)) :: cut room (rest.dropWhile isNamePart)
    else
      match operators.findSome? fun name => (Text.dropStart? name.toList (c :: rest)).map (name, ·) with
      | some (name, after) => .operator name :: cut room after
      | none => [.junk]

def wholeNumber? (s : String) : Option Int :=
  let cs := s.toList.dropWhile isSpace
  let (sign, cs) : Int × List Char :=
    match cs with
    | '-' :: rest => (-1, rest)
    | '+' :: rest => (1, rest)
    | cs => (1, cs)
  if cs.head?.any Char.isDigit then
    let (n, after) := readNumber cs
    if after.all isSpace then some (sign * n) else none
  else none

def fault {α : Type} (what : String) : Summing α := do
  throw s!"arithmetic expression: {what}: \"{(← get).text}\""

def peek? : Summing (Option SumToken) := return (← get).tokens.head?

def advance : Summing Unit := modify fun sum => { sum with tokens := sum.tokens.tail }

def takeOperator (name : String) : Summing Bool := do
  match ← peek? with
  | some (.operator found) =>
    if found = name then
      advance
      return true
    else return false
  | _ => return false

def valueOf (name : String) : Summing Int := do
  match (← get).values.get? name with
  | none | some "" => return 0
  | some value =>
    match wholeNumber? value with
    | some n => return n
    | none => throw s!"Illegal number: {value}"

def ofBool (b : Bool) : Int := if b then 1 else 0

def scale (count : Int) : Int := Int.ofNat (1 <<< (count % 64).toNat)

def apply (operator : String) (a b : Int) : Summing Int := do
  let bits (f : Nat → Nat → Nat) : Int :=
    wrap (f (a % 18446744073709551616).toNat (b % 18446744073709551616).toNat)
  match operator with
  | "||" => return ofBool (a ≠ 0 || b ≠ 0)
  | "&&" => return ofBool (a ≠ 0 && b ≠ 0)
  | "|" => return bits (· ||| ·)
  | "^" => return bits (· ^^^ ·)
  | "&" => return bits (· &&& ·)
  | "==" => return ofBool (a = b)
  | "!=" => return ofBool (a ≠ b)
  | "<=" => return ofBool (a ≤ b)
  | ">=" => return ofBool (a ≥ b)
  | "<" => return ofBool (a < b)
  | ">" => return ofBool (a > b)
  | "<<" => return wrap (a * scale b)
  | ">>" => return a.fdiv (scale b)
  | "+" => return wrap (a + b)
  | "-" => return wrap (a - b)
  | "*" => return wrap (a * b)
  | "/" => if b = 0 then fault "division by zero" else return wrap (a.tdiv b)
  | "%" => if b = 0 then fault "division by zero" else return a.tmod b
  | _ => return 0

mutual

/-- An assignment or a choice. What is not live is read, but neither worked out nor assigned. -/
def whole : Nat → Bool → Summing Int
  | 0, _ => throw "out of room"
  | room + 1, live => do
    match (← get).tokens with
    | .name name :: .operator operator :: rest =>
      if operator ∈ assigning then
        modify fun sum => { sum with tokens := rest }
        let given ← whole room live
        let result ←
          if operator = "=" || !live then pure given
          else
            let old ← valueOf name
            apply (String.ofList operator.toList.dropLast) old given
        if live then
          modify fun sum => { sum with values := sum.values.insert name (toString result) }
        return result
      else choice room live
    | _ => choice room live

def choice : Nat → Bool → Summing Int
  | 0, _ => throw "out of room"
  | room + 1, live => do
    let condition ← binary room levels live
    if ← takeOperator "?" then
      let yes ← whole room (live && condition ≠ 0)
      if !(← takeOperator ":") then fault "expecting ':'"
      let no ← choice room (live && condition = 0)
      return if condition ≠ 0 then yes else no
    else return condition

def binary : Nat → List (List String) → Bool → Summing Int
  | 0, _, _ => throw "out of room"
  | room + 1, [], live => unary room live
  | room + 1, operators :: tighter, live => do
    let first ← binary room tighter live
    binaryRest room operators tighter live first

def binaryRest : Nat → List String → List (List String) → Bool → Int → Summing Int
  | 0, _, _, _, _ => throw "out of room"
  | room + 1, operators, tighter, live, first => do
    match ← peek? with
    | some (.operator name) =>
      if name ∈ operators then
        advance
        let settled := (name = "||" && first ≠ 0) || (name = "&&" && first = 0)
        let second ← binary room tighter (live && !settled)
        let result ← if live then apply name first second else pure 0
        binaryRest room operators tighter live result
      else return first
    | _ => return first

def unary : Nat → Bool → Summing Int
  | 0, _ => throw "out of room"
  | room + 1, live => do
    match ← peek? with
    | some (.number n) =>
      advance
      return n
    | some (.name name) =>
      advance
      if live then valueOf name else return 0
    | some (.operator "(") =>
      advance
      let inside ← whole room live
      if !(← takeOperator ")") then fault "expecting ')'"
      return inside
    | some (.operator "-") =>
      advance
      return wrap (-(← unary room live))
    | some (.operator "+") =>
      advance
      unary room live
    | some (.operator "!") =>
      advance
      return ofBool ((← unary room live) = 0)
    | some (.operator "~") =>
      advance
      return -(← unary room live) - 1
    | _ => fault "expecting primary"

end

def work (values : Table String String) (text : String) : Except String (Int × Table String String) :=
  let cs := text.toList
  let room := 16 * cs.length + 40
  let start : Sum := { tokens := cut (cs.length + 1) cs, values, text }
  let all : Summing Int := do
    if (← get).tokens.isEmpty then return 0
    let n ← whole room true
    if (← peek?).isSome then fault "expecting EOF"
    return n
  match all.run start with
  | (.ok n, sum) => .ok (n, sum.values)
  | (.error what, _) => .error what

end Sum

end UefiBuild.Script
