import UefiBuild.Script.Printing
import UefiBuild.Script.Regex

namespace UefiBuild.Script.Awk

inductive Value
  | unset
  | number (n : Rat)
  | text (s : String)
  /-- A text from outside that is also a number. -/
  | input (s : String) (n : Rat)

def fillShapes (number : Value → Rat) (text : Value → String) : Nat → List Char → List Value →
    Option (List Char)
  | 0, _, _ | _, [], _ => some []
  | room + 1, '%' :: '%' :: rest, values => (fillShapes number text room rest values).map ('%' :: ·)
  | room + 1, '%' :: rest, values => do
    let flags := rest.takeWhile (· ∈ ['#', '-', '+', ' ', '0'])
    let count (cs : List Char) (values : List Value) : Option (Option Int × List Char × List Value) :=
      match cs, values with
      | '*' :: cs, value :: values => some (some (Fraction.whole (number value)), cs, values)
      | '*' :: _, [] => none
      | cs, values =>
        let digits := cs.takeWhile Char.isDigit
        some (if digits = [] then none else some (Sum.ofDigits 10 digits), cs.drop digits.length, values)
    let (width?, after, values) ← count (rest.drop flags.length) values
    let (precision?, after, values) ←
      match after with
      | '.' :: after => (count after values).map fun (n?, after, values) =>
          (some (n?.getD 0).toNat, after, values)
      | after => some (none, after, values)
    let width := width?.getD 0
    let flags := if width < 0 then '-' :: flags else flags
    match after with
    | [] => some ('%' :: rest)
    | letter :: after =>
      let shape : Printing.Shape := { flags, width := width.natAbs, precision?, letter }
      if letter ∈ "sdiouxXcfFeEgG".toList then
        let value :: values := values | none
        let whole := Fraction.whole (number value)
        let written :=
          match letter with
          | 's' => shape.ofText (text value).toList
          | 'd' | 'i' => shape.ofInt whole
          | 'o' | 'u' | 'x' | 'X' => shape.ofNat (whole % 18446744073709551616).toNat
          | 'c' =>
            match value with
            | .number _ => shape.pad [Char.ofNat (whole % 256).toNat]
            | value => shape.pad ((text value).toList.take 1)
          | _ => shape.ofFraction (number value)
        return written ++ (← fillShapes number text room after values)
      else return '%' :: rest.take (rest.length - after.length) ++ (← fillShapes number text room after values)
  | room + 1, c :: rest, values => (fillShapes number text room rest values).map (c :: ·)

namespace Value

def ofInput (s : String) : Value :=
  match Fraction.read? s.toList with
  | some (n, rest) => if rest.all Sum.isSpace then input s n else text s
  | none => text s

def toNumber : Value → Rat
  | unset => 0
  | number n | input _ n => n
  | text s => ((Fraction.read? s.toList).map Prod.fst).getD 0

def wholeLimit : Int := 18446744073709551616

def toText (pattern : String) : Value → String
  | unset => ""
  | text s | input s _ => s
  | number n =>
    if Fraction.isWhole n && n.num.natAbs < wholeLimit then toString n.num
    else
      match fillShapes toNumber (fun _ => "") (pattern.length + 1) pattern.toList [number n] with
      | some cs => String.ofList cs
      | none => ""

def holds : Value → Bool
  | unset => false
  | number n | input _ n => n ≠ 0
  | text s => s ≠ ""

def compare (pattern : String) (a b : Value) : Ordering :=
  match a, b with
  | text _, _ | _, text _ => Ord.compare (a.toText pattern) (b.toText pattern)
  | _, _ => if a.toNumber < b.toNumber then .lt else if b.toNumber < a.toNumber then .gt else .eq

def ofBool (b : Bool) : Value := number (if b then 1 else 0)

def ofNat (n : Nat) : Value := number n

end Value

inductive Cutter
  | blanks
  | letters
  | pattern (regex : Regex)

namespace Cutter

def of (separator : String) : Except String Cutter :=
  match separator.toList with
  | [] => .ok letters
  | [' '] => .ok blanks
  | [c] => .ok (pattern (Regex.char c))
  | _ => (Regex.read true separator).map fun (regex, _) => pattern regex

def cutAll (regex : Regex) : Nat → List Char → Option Char → List Char → List (List Char)
  | 0, passed, _, text => [passed.reverse ++ text]
  | room + 1, passed, previous?, text =>
    match regex.find? false previous? text with
    | none => [passed.reverse ++ text]
    | some found =>
      if found.found = [] then
        match found.after with
        | [] => [passed.reverse ++ text]
        | c :: rest =>
          cutAll regex room (c :: (found.before.reverse ++ passed)) (some c) rest
      else (passed.reverse ++ found.before) :: cutAll regex room [] found.found.getLast? found.after

def cut (cutter : Cutter) (s : String) : List String :=
  if s = "" then []
  else
    match cutter with
    | blanks => (Text.splitAt (· ∈ [' ', '\t', '\n']) s).filter (· ≠ "")
    | letters => s.toList.map fun c => String.singleton c
    | pattern regex => (cutAll regex (s.length + 1) [] none s.toList).map String.ofList

end Cutter

end UefiBuild.Script.Awk
