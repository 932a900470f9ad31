import UefiBuild.Script.Tool.Options

namespace UefiBuild.Script

def inputWords : Nat → List Char → Option (List Char) → List String
  | 0, _, _ => []
  | _, [], word? => (word?.map String.ofList).toList
  | room + 1, c :: rest, word? =>
    let word := word?.getD []
    if c = ' ' || c = '\t' || c = '\n' then
      (word?.map String.ofList).toList ++ inputWords room rest none
    else if c = '"' || c = '\x27' then
      let inside := rest.takeWhile (· ≠ c)
      inputWords room (rest.drop (inside.length + 1)) (some (word ++ inside))
    else if c = '\\' then inputWords room (rest.drop 1) (some (word ++ rest.take 1))
    else inputWords room rest (some (word ++ [c]))

def inRuns (length : Nat) : Nat → List String → List (List String)
  | 0, _ | _, [] => []
  | room + 1, words => words.take length :: inRuns length room (words.drop length)

def OptionForm.part (form : OptionForm) : List String → List String × List String
  | [] => ([], [])
  | argument :: rest =>
    match argument.toList with
    | ['-', '-'] => ([], rest)
    | ['-', c] =>
      match rest with
      | value :: rest =>
        if form.valued.contains c then
          let (taken, left) := form.part rest
          (argument :: value :: taken, left)
        else
          let (taken, left) := form.part (value :: rest)
          (argument :: taken, left)
      | [] => ([argument], [])
    | '-' :: _ =>
      let (taken, left) := form.part rest
      (argument :: taken, left)
    | _ => ([], argument :: rest)
termination_by words => words.length

end UefiBuild.Script
