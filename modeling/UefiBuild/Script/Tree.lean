import UefiBuild.Table

namespace UefiBuild.Script

def isNameStart (c : Char) : Bool := c.isAlpha || c = '_'

def isNamePart (c : Char) : Bool := c.isAlphanum || c = '_'

def isName (s : List Char) : Bool := s.head?.any isNameStart && s.all isNamePart

inductive Fallback
  | default
  | assign
  | giveUp
  | instead

mutual

inductive Piece
  | text (s : String) (quoted : Bool)
  | quotes
  | parameter (name : String) (use : Use) (quoted : Bool)
  | output (commands : Command) (quoted : Bool)
  | sum (expression : List Piece) (quoted : Bool)

inductive Use
  | value
  | length
  | fallback (kind : Fallback) (emptyCounts : Bool) (word : List Piece)
  | trim (atEnd longest : Bool) (pattern : List Piece)
  | bad

inductive Redirection
  | file (fd : Nat) (operator : String) (target : List Piece)
  | given (fd text : Nat)

inductive Command
  | simple (line : Nat) (assignments : List (String × List Piece)) (words : List (List Piece))
      (redirections : List Redirection)
  | redirected (line : Nat) (body : Command) (redirections : List Redirection)
  | pipe (stages : List Command)
  | negate (command : Command)
  | both (first second : Command)
  | either (first second : Command)
  | sequence (commands : List Command)
  | background (command : Command)
  | subshell (body : Command)
  | branch (condition yes no : Command)
  | loop (stopsOnSuccess : Bool) (condition body : Command)
  | forEach (line : Nat) (name : String) (words? : Option (List (List Piece))) (body : Command)
  | choose (line : Nat) (word : List Piece) (cases : List (List (List Piece) × Command))
  | define (name : String) (body : Command)

end

instance : Inhabited Command := ⟨.sequence []⟩

abbrev Word : Type := List Piece

/-- A script as it has been read: the commands that are run one after the other, up to the place, if
any, where it cannot be understood. -/
structure Program where
  commands : List Command := []
  texts : Table Nat Word := ∅
  nextText : Nat := 0
  fault? : Option (Nat × String) := none
  deriving Inhabited

end UefiBuild.Script
