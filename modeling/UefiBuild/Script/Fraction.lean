import UefiBuild.Script.Sum

namespace UefiBuild.Script.Fraction

def rounded (n : Rat) : Nat :=
  let whole := n.floor
  let left := n - whole
  let up := (1 : Rat) / 2 < left || (left = (1 : Rat) / 2 && whole % 2 = 1)
  (if up then whole + 1 else whole).toNat

def exponent (base : Nat) (n : Rat) : Int :=
  let digits (n : Nat) : Int := Int.ofNat (Nat.toDigits base n).length
  let guess := digits n.num.natAbs - digits n.den
  if n < (base : Rat) ^ guess then guess - 1
  else if (base : Rat) ^ (guess + 1) ≤ n then guess + 1
  else guess

/-- The nearest number with 53 binary digits. All numbers are kept like that. -/
def near (n : Rat) : Rat :=
  if n = 0 then 0
  else
    let size := if n < 0 then -n else n
    let unit : Rat := (2 : Rat) ^ (exponent 2 size - 52)
    let kept : Rat := unit * (rounded (size / unit) : Rat)
    if n < 0 then -kept else kept

def whole (n : Rat) : Int := if n < 0 then -((-n).floor) else n.floor

def isWhole (n : Rat) : Bool := n.den = 1

def readPositive? (cs : List Char) : Option (Rat × List Char) :=
  match cs with
  | '0' :: x :: c :: rest =>
    if (x = 'x' || x = 'X') && Sum.isHexDigit c then
      let digits := (c :: rest).takeWhile Sum.isHexDigit
      some (near (Sum.ofDigits 16 digits), (c :: rest).drop digits.length)
    else readDecimal cs
  | cs => readDecimal cs
where
  readDecimal (cs : List Char) : Option (Rat × List Char) :=
    let before := cs.takeWhile Char.isDigit
    let rest := cs.drop before.length
    let after := if rest.head? = some '.' then rest.tail.takeWhile Char.isDigit else []
    if before = [] && after = [] then none
    else
      let rest := if rest.head? = some '.' then rest.drop (after.length + 1) else rest
      let digits : Rat := Sum.ofDigits 10 (before ++ after)
      let (power, rest) := readPower rest
      some (near (digits * (10 : Rat) ^ (power - (after.length : Int))), rest)
  readPower (cs : List Char) : Int × List Char :=
    match cs with
    | e :: rest =>
      if e = 'e' || e = 'E' then
        let (sign, rest) : Int × List Char :=
          match rest with
          | '-' :: rest => (-1, rest)
          | '+' :: rest => (1, rest)
          | rest => (1, rest)
        let digits := rest.takeWhile Char.isDigit
        if digits = [] then (0, cs) else (sign * Sum.ofDigits 10 digits, rest.drop digits.length)
      else (0, cs)
    | [] => (0, [])

def read? (cs : List Char) : Option (Rat × List Char) :=
  match cs.dropWhile Sum.isSpace with
  | '-' :: rest => (readPositive? rest).map fun (n, rest) => (-n, rest)
  | '+' :: rest => readPositive? rest
  | rest => readPositive? rest

def fixed (places : Nat) (n : Rat) : List Char :=
  let digits := Nat.toDigits 10 (rounded (n * (10 : Rat) ^ places))
  let digits := List.replicate (places + 1 - digits.length) '0' ++ digits
  let before := digits.take (digits.length - places)
  if places = 0 then before else before ++ '.' :: digits.drop before.length

def scaled (places : Nat) (n : Rat) : List Char × Int :=
  if n = 0 then (List.replicate (places + 1) '0', 0)
  else
    let power := exponent 10 n
    let found := Nat.toDigits 10 (rounded (n / (10 : Rat) ^ (power - places)))
    if places + 1 < found.length then (found.dropLast, power + 1) else (found, power)

def scientific (letter : Char) (digits : List Char) (power : Int) : List Char :=
  let shown := Nat.toDigits 10 power.natAbs
  let shown := List.replicate (2 - shown.length) '0' ++ shown
  let mantissa := if digits.length ≤ 1 then digits else digits.take 1 ++ '.' :: digits.drop 1
  mantissa ++ letter :: (if power < 0 then '-' else '+') :: shown

def withoutZeros (cs : List Char) : List Char :=
  if cs.contains '.' then
    let kept := cs.reverse.dropWhile (· = '0')
    (if kept.head? = some '.' then kept.tail else kept).reverse
  else cs

def digits (letter : Char) (precision : Nat) (n : Rat) : List Char :=
  let mark : Char := if letter.isUpper then 'E' else 'e'
  match letter.toLower with
  | 'f' => fixed precision n
  | 'e' =>
    let (found, power) := scaled precision n
    scientific mark found power
  | _ =>
    let wanted := max precision 1
    let (found, power) := scaled (wanted - 1) n
    if power < -4 || (wanted : Int) ≤ power then
      let kept := (found.reverse.dropWhile (· = '0')).reverse
      scientific mark kept power
    else withoutZeros (fixed (wanted - 1 - power).toNat n)

end UefiBuild.Script.Fraction
