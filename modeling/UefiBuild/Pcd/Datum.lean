import UefiBuild.Text.Case
import UefiBuild.Text.Number

namespace UefiBuild

inductive DatumType
  | boolean
  | uint8
  | uint16
  | uint32
  | uint64
  | blob
  deriving DecidableEq, Inhabited

namespace DatumType

def name : DatumType → String
  | boolean => "BOOLEAN"
  | uint8 => "UINT8"
  | uint16 => "UINT16"
  | uint32 => "UINT32"
  | uint64 => "UINT64"
  | blob => "VOID*"

def ofText? (s : String) : Option DatumType :=
  match Text.trim s with
  | "BOOLEAN" => some boolean
  | "UINT8" => some uint8
  | "UINT16" => some uint16
  | "UINT32" => some uint32
  | "UINT64" => some uint64
  | "VOID*" => some blob
  | _ => none

def width? : DatumType → Option Nat
  | boolean | uint8 => some 1
  | uint16 => some 2
  | uint32 => some 4
  | uint64 => some 8
  | blob => none

def maxValue? : DatumType → Option Nat
  | boolean => some 1
  | uint8 => some 0xFF
  | uint16 => some 0xFFFF
  | uint32 => some 0xFFFFFFFF
  | uint64 => some 0xFFFFFFFFFFFFFFFF
  | blob => none

end DatumType

inductive DatumFault
  | byte (item value : String)
  | blob (value : String)
  | boolean (value : String)
  | number (value : String) (type : DatumType)
  | tooLarge (value : String) (type : DatumType)
  deriving DecidableEq

def DatumFault.message : DatumFault → String
  | byte item value => s!"Invalid byte [{item}] in array value {value}"
  | blob value =>
    s!"Invalid value [{value}] of type [VOID*]; must be in the form of \x7b...\x7d for array, " ++
      "\"...\" for ASCII string, or L\"...\" for unicode string"
  | boolean value => s!"Invalid value [{value}] of type [BOOLEAN]"
  | number value type => s!"Invalid value [{value}] of type [{type.name}]"
  | tooLarge value type => s!"Too large PCD value [{value}] for type [{type.name}]"

namespace Blob

def strayByte? (items : List Char) : Option String :=
  ((Text.pieces (· == ',') items).map fun item => String.ofList (Text.trimBoth item)).find? fun item =>
    item ≠ "" && !(Text.parseInt? item).any (· ≤ 0xFF)

def check (cs : List Char) : Except DatumFault Unit :=
  if (Text.dropStart? ['L', '"'] cs).isSome || cs.head? = some '"' then
    if cs.getLast? = some '"' ∧ 2 ≤ cs.length then .ok () else .error (.blob (String.ofList cs))
  else if cs.head? = some '\x7b' ∧ cs.getLast? = some '\x7d' then
    match strayByte? cs.tail.dropLast with
    | some item => .error (.byte item (String.ofList cs))
    | none => .ok ()
  else .error (.blob (String.ofList cs))

/-- The bytes to set aside for a blob that gives no size. A wide text is counted whole, with its
mark and its quotes, two bytes for each character. -/
def derivedSize (value : String) : UInt32 :=
  match value.toList with
  | [] => 1
  | 'L' :: rest => (2 * (rest.length + 1)).toUInt32
  | '\x7b' :: rest => (Text.pieces (· == ',') rest).length.toUInt32
  | cs => cs.length.toUInt32

end Blob

/-- Whether a text is a value of the type. A blank text says nothing and passes. -/
def DatumType.check (type : DatumType) (value : String) : Except DatumFault Unit :=
  let value := Text.trim value
  if value = "" then .ok ()
  else
    match type with
    | .blob => Blob.check value.toList
    | .boolean =>
      if Text.sameIgnoringAsciiCase value "TRUE" || Text.sameIgnoringAsciiCase value "FALSE" ||
          (Text.parseInt? value).any (· ≤ 1) then .ok ()
      else .error (.boolean value)
    | number =>
      match Text.parseInt? value with
      | none => .error (.number value number)
      | some n =>
        if number.maxValue?.all (n ≤ ·) then .ok () else .error (.tooLarge value number)

inductive TokenFault
  | missing
  | malformed (value : String)
  | tooLarge (value : String)
  deriving DecidableEq

def TokenFault.message : TokenFault → String
  | missing => "No TokenValue"
  | malformed value => s!"The format of TokenValue [{value}] is invalid"
  | tooLarge value =>
    s!"The format of TokenValue [{value}] is invalid, as a decimal it should be between " ++
      "0 - 4294967295"

def TokenValue.read (text : String) : Except TokenFault Nat :=
  let cs := Text.trimBoth text.toList
  let malformed := Except.error (.malformed (String.ofList cs))
  if cs = [] then .error .missing
  else
    match Text.hexDigits? cs with
    | some digits =>
      if 8 < digits.length then malformed
      else (Text.unsigned? 16 UInt32.size digits).elim malformed .ok
    | none =>
      match Text.unsigned? 10 UInt64.size cs with
      | none => malformed
      | some n => if n < UInt32.size then .ok n else .error (.tooLarge (String.ofList cs))

end UefiBuild
