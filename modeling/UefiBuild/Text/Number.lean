import UefiBuild.Text.Split

namespace UefiBuild.Text

def digit? (base : Nat) (c : Char) : Option Nat :=
  let value :=
    if '0' ≤ c ∧ c ≤ '9' then some (c.toNat - '0'.toNat)
    else if 'a' ≤ c ∧ c ≤ 'z' then some (c.toNat - 'a'.toNat + 10)
    else if 'A' ≤ c ∧ c ≤ 'Z' then some (c.toNat - 'A'.toNat + 10)
    else none
  value.filter (· < base)

def digitsValue? (base : Nat) : Nat → List Char → Option Nat
  | acc, [] => some acc
  | acc, c :: rest => (digit? base c).bind fun d => digitsValue? base (acc * base + d) rest

/-- A number in the given base, below the limit. It can have a plus in front. -/
def unsigned? (base limit : Nat) (cs : List Char) : Option Nat :=
  let digits := if cs.head? = some '+' then cs.tail else cs
  if digits = [] then none else (digitsValue? base 0 digits).filter (· < limit)

def hexDigits? (cs : List Char) : Option (List Char) :=
  (dropStart? ['0', 'x'] cs).or (dropStart? ['0', 'X'] cs)

/-- A number of at most 64 bits, decimal or, after `0x`, hexadecimal. -/
def parseInt? (s : String) : Option Nat :=
  let cs := trimBoth s.toList
  match hexDigits? cs with
  | some digits => unsigned? 16 UInt64.size digits
  | none => unsigned? 10 UInt64.size cs

def hexPadded (width n : Nat) : List Char :=
  let digits := Nat.toDigits 16 n
  List.replicate (width - digits.length) '0' ++ digits

/-- The number form of a version: a number as it is, or `major.minor` in 16 bits each. -/
def hexVersion? (s : String) : Option String :=
  let cs := trimBoth s.toList
  let version (digits : List Char) : String := String.ofList ('0' :: 'x' :: digits)
  if (hexDigits? cs).isSome then
    (parseInt? (String.ofList cs)).map fun n => version (hexPadded 8 n)
  else
    match cutFirst? '.' cs with
    | some (before, after) => do
      let major ← unsigned? 10 UInt16.size before
      let minor ← unsigned? 10 UInt16.size after
      return version (hexPadded 4 major ++ hexPadded 4 minor)
    | none => (unsigned? 10 UInt16.size cs).map fun major => version (hexPadded 4 major ++ hexPadded 4 0)

end UefiBuild.Text
