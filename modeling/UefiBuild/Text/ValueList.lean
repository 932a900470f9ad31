import UefiBuild.Text.Split

namespace UefiBuild.Text

inductive Quoting
  | outside
  | inside
  | escaped
  deriving DecidableEq

/-- A backslash protects the character after it, but only between quotes. -/
def Quoting.next : Quoting → Char → Quoting
  | .outside, c => if c = '"' then .inside else .outside
  | .inside, c => if c = '\\' then .escaped else if c = '"' then .outside else .inside
  | .escaped, _ => .inside

def unquotedPieces (separator : Char) : Quoting → List Char → List (List Char)
  | _, [] => [[]]
  | quoting, c :: rest =>
    if quoting = .outside ∧ c ≠ '"' ∧ c = separator then
      [] :: unquotedPieces separator .outside rest
    else
      match unquotedPieces separator (quoting.next c) rest with
      | [] => [[c]]
      | piece :: others => (c :: piece) :: others

def valueFields (separator : Char) (cs : List Char) : List (List Char) :=
  (unquotedPieces separator .outside cs).map trimBoth

/-- The fields of a value list, each trimmed; quotes protect the separators between them. -/
def valueList (separator : Char) (s : String) : List String :=
  (valueFields separator s.toList).map String.ofList

end UefiBuild.Text
