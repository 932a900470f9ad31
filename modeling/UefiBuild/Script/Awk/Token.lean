import UefiBuild.Script.Awk.Tree
import UefiBuild.Script.Printing

namespace UefiBuild.Script.Awk

inductive Token
  | number (n : Rat) (written : String)
  | text (s : String)
  | pattern (s : String)
  | name (s : String)
  | called (s : String)
  | word (s : String)
  | sign (s : String)
  | lineEnd
  deriving DecidableEq

structure Placed where
  token : Token
  line : Nat

namespace Token

def words : List String :=
  ["BEGIN", "END", "function", "if", "else", "while", "for", "do", "break", "continue", "next",
    "nextfile", "exit", "return", "delete", "in", "getline", "print", "printf"]

def builtins : List String :=
  ["length", "substr", "index", "split", "sub", "gsub", "match", "sprintf", "int", "tolower", "toupper",
    "system", "close", "fflush"]

def signs : List String :=
  ["+=", "-=", "*=", "/=", "%=", "^=", "==", "<=", ">=", "!=", "!~", "++", "--", "&&", "||", ">>", "\x7b",
    "\x7d", "(", ")", "[", "]", ";", ",", "+", "-", "*", "/", "%", "^", "!", ">", "<", "|", "?", ":", "~",
    "$", "="]

def shown : Token → String
  | number _ written => written
  | text s => "\"" ++ s ++ "\""
  | pattern s => "/" ++ s ++ "/"
  | name s | called s | word s | sign s => s
  | lineEnd => "end of line"

def endsOperand : Token → Bool
  | number _ _ | text _ | pattern _ | name _ => true
  | called s => s = "length"
  | sign s => s ∈ [")", "]", "$", "++", "--"]
  | _ => false

def readText : Nat → List Char → Option (List Char × List Char)
  | 0, _ | _, [] => none
  | _, '"' :: rest => some ([], rest)
  | _, '\n' :: _ => none
  | room + 1, '\\' :: '\n' :: rest => readText room rest
  | room + 1, '\\' :: '"' :: rest => (readText room rest).map fun (s, after) => ('"' :: s, after)
  | room + 1, '\\' :: 'x' :: rest =>
    let digits := (rest.take 2).takeWhile Sum.isHexDigit
    if digits = [] then (readText room rest).map fun (s, after) => ('\\' :: 'x' :: s, after)
    else
      (readText room (rest.drop digits.length)).map fun (s, after) =>
        (Char.ofNat (Sum.ofDigits 16 digits).toNat :: s, after)
  | room + 1, '\\' :: rest =>
    let (c, rest) := Printing.escape rest
    (readText room rest).map fun (s, after) => (c :: s, after)
  | room + 1, c :: rest => (readText room rest).map fun (s, after) => (c :: s, after)

def readPattern : Nat → Bool → List Char → Option (List Char × List Char)
  | 0, _, _ | _, _, [] => none
  | _, _, '\n' :: _ => none
  | _, false, '/' :: rest => some ([], rest)
  | room + 1, inside, '\\' :: '/' :: rest =>
    (readPattern room inside rest).map fun (s, after) => ('/' :: s, after)
  | room + 1, inside, '\\' :: c :: rest =>
    (readPattern room inside rest).map fun (s, after) => ('\\' :: c :: s, after)
  | room + 1, false, '[' :: '^' :: ']' :: rest =>
    (readPattern room true rest).map fun (s, after) => ('[' :: '^' :: ']' :: s, after)
  | room + 1, false, '[' :: ']' :: rest =>
    (readPattern room true rest).map fun (s, after) => ('[' :: ']' :: s, after)
  | room + 1, _, '[' :: rest => (readPattern room true rest).map fun (s, after) => ('[' :: s, after)
  | room + 1, inside, c :: rest =>
    (readPattern room (inside && c ≠ ']') rest).map fun (s, after) => (c :: s, after)

def cut : Nat → Nat → Bool → List Char → Except (Nat × String) (List Placed)
  | 0, _, _, _ | _, _, _, [] => .ok []
  | room + 1, line, _, '\n' :: rest => do
    return ⟨.lineEnd, line⟩ :: (← cut room (line + 1) false rest)
  | room + 1, line, divides, '\\' :: '\n' :: rest => cut room (line + 1) divides rest
  | room + 1, line, divides, '#' :: rest => cut room line divides (rest.dropWhile (· ≠ '\n'))
  | room + 1, line, divides, c :: rest =>
    let put (token : Token) (rest : List Char) : Except (Nat × String) (List Placed) := do
      return ⟨token, line⟩ :: (← cut room line token.endsOperand rest)
    let cs := c :: rest
    if Sum.isSpace c then cut room line divides rest
    else if c = '"' then
      match readText cs.length rest with
      | some (s, rest) => put (.text (String.ofList s)) rest
      | none => .error (line, "runaway string constant \"" ++ String.ofList ((rest.take 10)) ++ " ...")
    else if c = '/' && !divides then
      match readPattern cs.length false rest with
      | some (s, rest) => put (.pattern (String.ofList s)) rest
      | none => .error (line, "runaway regular expression /" ++ String.ofList ((rest.take 10)) ++ " ...")
    else if c.isDigit || (c = '.' && rest.head?.any Char.isDigit) then
      match Fraction.readPositive?.readDecimal cs with
      | some (n, after) => put (.number n (String.ofList (cs.take (cs.length - after.length)))) after
      | none => cut room line divides rest
    else if isNameStart c then
      let found := String.ofList (cs.takeWhile isNamePart)
      let after := cs.dropWhile isNamePart
      if words.contains found then put (.word found) after
      else if found = "func" then put (.word "function") after
      else if builtins.contains found || after.head? = some '(' then put (.called found) after
      else put (.name found) after
    else
      match signs.findSome? fun found => (Text.dropStart? found.toList cs).map (found, ·) with
      | some (found, after) => put (.sign found) after
      | none => .error (line, "unexpected character '" ++ String.singleton c ++ "'")

end Token

end UefiBuild.Script.Awk
