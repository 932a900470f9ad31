import UefiBuild.Text.Blank

namespace UefiBuild.Text

def pieces (cut : Char → Bool) : List Char → List (List Char)
  | [] => [[]]
  | c :: rest =>
    if cut c then [] :: pieces cut rest
    else
      match pieces cut rest with
      | [] => [[c]]
      | piece :: others => (c :: piece) :: others

theorem pieces_ne_nil (cut : Char → Bool) (cs : List Char) : pieces cut cs ≠ [] := by
  cases cs with
  | nil => simp [pieces]
  | cons c rest =>
    rw [pieces]
    split
    · simp
    · split <;> simp

def cutFirst? (mark : Char) : List Char → Option (List Char × List Char)
  | [] => none
  | c :: rest =>
    if c = mark then some ([], rest)
    else (cutFirst? mark rest).map fun (before, after) => (c :: before, after)

def cutLast? (mark : Char) (cs : List Char) : Option (List Char × List Char) :=
  (cutFirst? mark cs.reverse).map fun (after, before) => (before.reverse, after.reverse)

def splitAt (cut : Char → Bool) (s : String) : List String :=
  (pieces cut s.toList).map String.ofList

def split (separator : Char) (s : String) : List String := splitAt (· == separator) s

def words (s : String) : List String := (splitAt isBlank s).filter (· ≠ "")

/-- Ends of lines are trimmed by every reader, so a carriage return before the break stays here. -/
def lines (s : String) : List String := split '\n' s

def cutAtFirst? (mark : Char) (s : String) : Option (String × String) :=
  (cutFirst? mark s.toList).map fun (before, after) => (String.ofList before, String.ofList after)

def cutAtLast? (mark : Char) (s : String) : Option (String × String) :=
  (cutLast? mark s.toList).map fun (before, after) => (String.ofList before, String.ofList after)

def dropStart? : List Char → List Char → Option (List Char)
  | [], cs => some cs
  | _ :: _, [] => none
  | p :: start, c :: cs => if p = c then dropStart? start cs else none

def startsWith (start s : String) : Bool := (dropStart? start.toList s.toList).isSome

def afterStart? (start s : String) : Option String :=
  (dropStart? start.toList s.toList).map String.ofList

def endsWith (finish s : String) : Bool :=
  (dropStart? finish.toList.reverse s.toList.reverse).isSome

def beforeEnd? (finish s : String) : Option String :=
  (dropStart? finish.toList.reverse s.toList.reverse).map fun cs => String.ofList cs.reverse

def occursIn (part : List Char) : List Char → Bool
  | [] => part.isEmpty
  | c :: rest => (dropStart? part (c :: rest)).isSome || occursIn part rest

def contains (s part : String) : Bool := occursIn part.toList s.toList

def replaceAll (old new : List Char) : Nat → List Char → List Char
  | 0, cs => cs
  | _ + 1, [] => []
  | room + 1, c :: rest =>
    match dropStart? old (c :: rest) with
    | some after => new ++ replaceAll old new room after
    | none => c :: replaceAll old new room rest

def replace (old new s : String) : String :=
  String.ofList (replaceAll old.toList new.toList s.toList.length s.toList)

def join (separator : String) (parts : List String) : String := separator.intercalate parts

end UefiBuild.Text
