import UefiBuild.Table

namespace UefiBuild

/-- A table whose keys have several parts, each of which may be the wildcard. -/
structure WildcardTable (α : Type) where
  entries : Table (List String) α := ∅
  wildcard : String := "COMMON"

namespace WildcardTable

variable {α : Type}

/-- The keys that cover `key`, the most specific first: an exact part goes before the wildcard, and
the earlier parts count for more. The program numbers them by the bits of a machine word, which allows
for keys of less than 64 parts; those in use have two or three. -/
def candidates (wildcard : String) : List String → List (List String)
  | [] => [[]]
  | part :: rest =>
    let below := candidates wildcard rest
    below.map (part :: ·) ++ if part = wildcard then [] else below.map (wildcard :: ·)

def insert (t : WildcardTable α) (key : List String) (value : α) : WildcardTable α :=
  { t with entries := t.entries.insert key value }

def resolveAll (t : WildcardTable α) (key : List String) : List α :=
  (candidates t.wildcard key).filterMap t.entries.get?

def resolve? (t : WildcardTable α) (key : List String) : Option α :=
  (candidates t.wildcard key).findSome? t.entries.get?

end WildcardTable

end UefiBuild
