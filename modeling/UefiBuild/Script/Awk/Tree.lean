import UefiBuild.Script.Fraction
import UefiBuild.Script.Regex

namespace UefiBuild.Script.Awk

inductive Expr
  | number (n : Rat)
  | text (s : String)
  | pattern (regex : Regex)
  | name (name : String)
  | field (place : Expr)
  | element (array : String) (keys : List Expr)
  | list (parts : List Expr)
  | assign (operator? : Option Char) (target value : Expr)
  | step (amount : Int) (after : Bool) (target : Expr)
  | opposite (e : Expr)
  | plus (e : Expr)
  | no (e : Expr)
  | work (operator : Char) (a b : Expr)
  | glue (a b : Expr)
  | compare (operator : String) (a b : Expr)
  | fits (wanted : Bool) (text pattern : Expr)
  | isKey (key : Expr) (array : String)
  | both (a b : Expr)
  | either (a b : Expr)
  | choose (condition yes no : Expr)
  | call (name : String) (arguments : List Expr)
  | line (target? file? command? : Option Expr)

structure Target where
  operator : String
  place : Expr

inductive Statement
  | value (e : Expr)
  | print (parts : List Expr) (target? : Option Target)
  | printf (parts : List Expr) (target? : Option Target)
  | block (statements : List Statement)
  | branch (condition : Expr) (yes : Statement) (no? : Option Statement)
  | while (condition : Expr) (body : Statement)
  | doWhile (body : Statement) (condition : Expr)
  | for (first? : Option Statement) (condition? : Option Expr) (step? : Option Statement)
      (body : Statement)
  | forEach (name array : String) (body : Statement)
  | next
  | nextFile
  | exit (status? : Option Expr)
  | break
  | continue
  | return (value? : Option Expr)
  | delete (array : String) (keys? : Option (List Expr))

inductive Selector
  | begin
  | finish
  | always
  | when (condition : Expr)
  | between (first last : Expr)

structure Rule where
  selector : Selector
  body? : Option Statement

structure Function where
  parameters : List String
  body : Statement

structure Program where
  rules : List Rule := []
  functions : Table String Function := ∅

def Expr.isTarget : Expr → Bool
  | name _ | field _ | element _ _ => true
  | _ => false

end UefiBuild.Script.Awk
