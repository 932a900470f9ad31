import UefiBuild.Text.Split

namespace UefiBuild.Text

/-- Reads the bytes that continue a character, each of which must lie in its range. A byte out of its
range is not read. -/
def continueChar : Nat → List (Nat × Nat) → List UInt8 → Option Char × List UInt8
  | code, [], rest => (some (Char.ofNat code), rest)
  | _, _ :: _, [] => (none, [])
  | code, (low, high) :: ranges, byte :: rest =>
    if low ≤ byte.toNat ∧ byte.toNat ≤ high then
      continueChar (64 * code + byte.toNat % 64) ranges rest
    else (none, byte :: rest)

theorem length_continueChar_le (code : Nat) (ranges : List (Nat × Nat)) (bytes : List UInt8) :
    (continueChar code ranges bytes).2.length ≤ bytes.length := by
  induction ranges generalizing code bytes with
  | nil => simp [continueChar]
  | cons range ranges ih =>
    cases bytes with
    | nil => simp [continueChar]
    | cons byte rest =>
      rw [continueChar]
      split
      · exact Nat.le_trans (ih _ _) (Nat.le_succ _)
      · simp

/-- The ranges of the bytes that must follow a first byte. They leave out what could be written with
fewer bytes, surrogates, and all that is too large for a code point. -/
def followers? (first : Nat) : Option (Nat × List (Nat × Nat)) :=
  let any := (0x80, 0xBF)
  if first < 0x80 then some (first, [])
  else if first < 0xC2 then none
  else if first < 0xE0 then some (first % 32, [any])
  else if first = 0xE0 then some (0, [(0xA0, 0xBF), any])
  else if first = 0xED then some (13, [(0x80, 0x9F), any])
  else if first < 0xF0 then some (first % 16, [any, any])
  else if first = 0xF0 then some (0, [(0x90, 0xBF), any, any])
  else if first < 0xF4 then some (first % 8, [any, any, any])
  else if first = 0xF4 then some (4, [(0x80, 0x8F), any, any])
  else none

def readChar (first : UInt8) (rest : List UInt8) : Option Char × List UInt8 :=
  match followers? first.toNat with
  | some (code, ranges) => continueChar code ranges rest
  | none => (none, rest)

theorem length_readChar_le (first : UInt8) (rest : List UInt8) :
    (readChar first rest).2.length ≤ rest.length := by
  rw [readChar]
  split
  · exact length_continueChar_le _ _ _
  · exact Nat.le_refl _

def readChars : List UInt8 → List (Option Char)
  | [] => []
  | first :: rest => (readChar first rest).1 :: readChars (readChar first rest).2
termination_by bytes => bytes.length
decreasing_by exact Nat.lt_succ_of_le (length_readChar_le first rest)

def ofUtf8? (bytes : List UInt8) : Option String := ((readChars bytes).mapM id).map String.ofList

def ofUtf8 (bytes : List UInt8) : String :=
  String.ofList ((readChars bytes).map (·.getD '\uFFFD'))

def toUtf8 (s : String) : List UInt8 := s.toUTF8.toList

end UefiBuild.Text
