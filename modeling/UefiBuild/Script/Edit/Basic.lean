import UefiBuild.Script.Regex

namespace UefiBuild.Script

inductive Address
  | line (number : Nat)
  | every (first step : Nat)
  | last
  | fits (pattern? : Option Regex) (folds : Bool)
  | later (count : Nat)

inductive Substitute
  | char (c : Char)
  | group (number : Nat)
  /-- From here on letters change case: `U`, `L`, `u`, `l`, and `E` ends that. -/
  | casing (letter : Char)

def Substitute.groupNumber? : Substitute → Option Nat
  | .group number => some number
  | _ => none

structure Substitution where
  pattern? : Option Regex
  folds : Bool := false
  parts : List Substitute
  everywhere : Bool := false
  number : Nat := 1
  prints : Bool := false

inductive EditAction
  | opens
  | closes
  | substitute (change : Substitution)
  | translate (pairs : List (Char × Char))
  | delete
  | deleteFirst
  | print
  | printFirst
  | quit (status : Nat) (prints : Bool)
  | showNumber
  | next
  | appendNext
  | holdSpace
  | holdMore
  | getHeld
  | getMore
  | exchange
  | after (text : List Char)
  | before (text : List Char)
  | change (text : List Char)
  | label (name : String)
  | branch (condition : Option Bool) (name : String)

structure EditStep where
  first? : Option Address
  second? : Option Address
  negated : Bool
  action : EditAction

structure EditFault where
  left : Nat
  what : String

end UefiBuild.Script
