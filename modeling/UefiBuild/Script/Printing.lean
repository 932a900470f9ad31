import UefiBuild.Script.Fraction

namespace UefiBuild.Script

structure Printed where
  text : List Char := []
  faults : List String := []
  stops : Bool := false
  broken : Bool := false

namespace Printing

def isOctal (c : Char) : Bool := '0' ≤ c && c ≤ '7'

def escape (cs : List Char) : Char × List Char :=
  match cs with
  | 'a' :: rest => ('\x07', rest)
  | 'b' :: rest => ('\x08', rest)
  | 'e' :: rest => ('\x1b', rest)
  | 'f' :: rest => ('\x0c', rest)
  | 'n' :: rest => ('\n', rest)
  | 'r' :: rest => ('\r', rest)
  | 't' :: rest => ('\t', rest)
  | 'v' :: rest => ('\x0b', rest)
  | '\\' :: rest => ('\\', rest)
  | cs =>
    let digits := (cs.take 3).takeWhile isOctal
    if digits = [] then ('\\', cs)
    else (Char.ofNat ((Sum.ofDigits 8 digits).toNat % 256), cs.drop digits.length)

/-- A text with its backslashes worked out. Another zero can stand before the digits of a character,
and `\c` ends all printing. -/
def unescape : Nat → List Char → List Char × Bool
  | 0, _ | _, [] => ([], false)
  | _ + 1, '\\' :: 'c' :: _ => ([], true)
  | room + 1, '\\' :: rest =>
    let rest :=
      match rest with
      | '0' :: d :: after => if isOctal d then d :: after else rest
      | rest => rest
    let (c, rest) := escape rest
    let (others, stops) := unescape room rest
    (c :: others, stops)
  | room + 1, c :: rest =>
    let (others, stops) := unescape room rest
    (c :: others, stops)

def echo (arguments : List String) : String :=
  let (breaks, arguments) :=
    match arguments with
    | "-n" :: rest => (false, rest)
    | arguments => (true, arguments)
  let cs := (Text.join " " arguments).toList
  let (text, stops) := unescape (cs.length + 1) cs
  String.ofList (if breaks && !stops then text ++ ['\n'] else text)

structure Shape where
  flags : List Char
  width : Nat
  precision? : Option Nat
  letter : Char

namespace Shape

def pad (shape : Shape) (text : List Char) : List Char :=
  let fill := List.replicate (shape.width - text.length) ' '
  if shape.flags.contains '-' then text ++ fill else fill ++ text

def ofText (shape : Shape) (text : List Char) : List Char :=
  shape.pad (shape.precision?.elim text fun n => text.take n)

def ofDigits (shape : Shape) (before digits : List Char) : List Char :=
  let digits := if shape.precision? = some 0 && digits = ['0'] then [] else digits
  let least := shape.precision?.getD 1
  let digits := List.replicate (least - digits.length) '0' ++ digits
  if shape.flags.contains '0' && !shape.flags.contains '-' && shape.precision?.isNone then
    before ++ List.replicate (shape.width - before.length - digits.length) '0' ++ digits
  else shape.pad (before ++ digits)

def ofInt (shape : Shape) (n : Int) : List Char :=
  let sign :=
    if n < 0 then ['-']
    else if shape.flags.contains '+' then ['+']
    else if shape.flags.contains ' ' then [' ']
    else []
  shape.ofDigits sign (Nat.toDigits 10 n.natAbs)

def ofNat (shape : Shape) (n : Nat) : List Char :=
  let other := shape.flags.contains '#' && n ≠ 0
  match shape.letter with
  | 'o' => shape.ofDigits (if other then ['0'] else []) (Nat.toDigits 8 n)
  | 'x' => shape.ofDigits (if other then ['0', 'x'] else []) (Nat.toDigits 16 n)
  | 'X' => shape.ofDigits (if other then ['0', 'X'] else []) ((Nat.toDigits 16 n).map Char.toUpper)
  | _ => shape.ofDigits [] (Nat.toDigits 10 n)

def ofFraction (shape : Shape) (n : Rat) : List Char :=
  let sign :=
    if n < 0 then ['-']
    else if shape.flags.contains '+' then ['+']
    else if shape.flags.contains ' ' then [' ']
    else []
  let digits := Fraction.digits shape.letter (shape.precision?.getD 6) (if n < 0 then -n else n)
  if shape.flags.contains '0' && !shape.flags.contains '-' then
    sign ++ List.replicate (shape.width - sign.length - digits.length) '0' ++ digits
  else shape.pad (sign ++ digits)

end Shape

/-- The number that an argument gives, and what is wrong with it. A quote gives the number of the
character after it. -/
def numberOf (argument : String) : Int × List String :=
  match argument.toList with
  | [] => (0, [])
  | '"' :: c :: _ | '\x27' :: c :: _ => (c.toNat, [])
  | cs =>
    let trimmed := cs.dropWhile Sum.isSpace
    let (sign, digits) : Int × List Char :=
      match trimmed with
      | '-' :: rest => (-1, rest)
      | '+' :: rest => (1, rest)
      | rest => (1, rest)
    if digits.head?.any Char.isDigit then
      let (n, after) := Sum.readNumber digits
      (sign * n, if after.isEmpty then [] else [argument ++ ": not completely converted"])
    else (0, [argument ++ ": expected numeric value"])

def fractionOf (argument : String) : Rat × List String :=
  match argument.toList with
  | [] => (0, [])
  | '"' :: c :: _ | '\x27' :: c :: _ => (c.toNat, [])
  | cs =>
    match Fraction.read? cs with
    | none => (0, [argument ++ ": expected numeric value"])
    | some (n, rest) => (n, if rest.isEmpty then [] else [argument ++ ": not completely converted"])

def fractionLetters : List Char := ['e', 'E', 'f', 'F', 'g', 'G']

def readCount (cs : List Char) (arguments : List String) : Option Nat × List Char × List String :=
  match cs with
  | '*' :: rest => (some (numberOf (arguments.headD "")).1.toNat, rest, arguments.tail)
  | cs =>
    let digits := cs.takeWhile Char.isDigit
    (if digits = [] then none else some (Sum.ofDigits 10 digits).toNat, cs.drop digits.length, arguments)

def write (shape : Shape) (argument : String) : Printed :=
  match shape.letter with
  | 's' => { text := shape.ofText argument.toList }
  | 'c' => { text := shape.pad (argument.toList.take 1) }
  | 'b' =>
    let cs := argument.toList
    let (text, stops) := unescape (cs.length + 1) cs
    { text := shape.ofText text, stops }
  | letter =>
    if fractionLetters.contains letter then
      let (n, faults) := fractionOf argument
      { text := shape.ofFraction n, faults }
    else
      let (n, faults) := numberOf argument
      if letter = 'd' || letter = 'i' then { text := shape.ofInt n, faults }
      else { text := shape.ofNat (n % 18446744073709551616).toNat, faults }

def fill : Nat → List Char → List String → Printed × List String
  | 0, _, arguments | _, [], arguments => ({}, arguments)
  | room + 1, '\\' :: rest, arguments =>
    let (c, rest) := escape rest
    let (others, left) := fill room rest arguments
    ({ others with text := c :: others.text }, left)
  | room + 1, '%' :: '%' :: rest, arguments =>
    let (others, left) := fill room rest arguments
    ({ others with text := '%' :: others.text }, left)
  | room + 1, '%' :: rest, arguments =>
    let flags := rest.takeWhile (· ∈ ['#', '-', '+', ' ', '0'])
    let (width?, after, arguments) := readCount (rest.drop flags.length) arguments
    let (precision?, after, arguments) :=
      match after with
      | '.' :: after =>
        let (found?, after, arguments) := readCount after arguments
        (some (found?.getD 0), after, arguments)
      | after => (none, after, arguments)
    match after with
    | [] => ({ faults := ["missing format character"], broken := true }, arguments)
    | letter :: after =>
      if letter ∈ ['s', 'b', 'c', 'd', 'i', 'o', 'u', 'x', 'X'] ++ fractionLetters then
        let first := write { flags, width := width?.getD 0, precision?, letter } (arguments.headD "")
        if first.stops then (first, [])
        else
          let (others, left) := fill room after arguments.tail
          ({ others with text := first.text ++ others.text, faults := first.faults ++ others.faults },
            left)
      else
        let shown := '%' :: rest.take (rest.length - after.length)
        ({ faults := [String.ofList shown ++ ": invalid directive"], broken := true }, arguments)
  | room + 1, c :: rest, arguments =>
    let (others, left) := fill room rest arguments
    ({ others with text := c :: others.text }, left)

def fillAll (pattern : List Char) : Nat → List String → Printed
  | 0, _ => {}
  | room + 1, arguments =>
    let (first, left) := fill (pattern.length + 1) pattern arguments
    if first.stops || first.broken || left.isEmpty || left.length = arguments.length then first
    else
      let others := fillAll pattern room left
      { others with text := first.text ++ others.text, faults := first.faults ++ others.faults }

end Printing

end UefiBuild.Script
