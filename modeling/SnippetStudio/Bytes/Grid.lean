/-!
# Characters in rows

A `Grid` holds the characters of a charset in rows.  A `Stretch` holds characters that follow each other, both in
the charset and in their own order.
-/

namespace SnippetStudio

/-- characters in rows; the replacement character stands where there is none -/
structure Grid where
  rows : Array (Array Char)

namespace Grid

def ofRows (rows : List String) : Grid := ⟨(rows.map fun r => r.toList.toArray).toArray⟩

/-- the character at a place, where there is one -/
def char? (g : Grid) (row column : Nat) : Option Char :=
  match g.rows[row]?.bind fun r => r[column]? with
  | some '\uFFFD' => none
  | found => found

/-- the character at a place, where rows and places are counted from `0x21` on -/
def graphic? (g : Grid) (a b : Nat) : Option Char :=
  if 0x21 ≤ a ∧ 0x21 ≤ b then g.char? (a - 0x21) (b - 0x21) else none

end Grid

/-- characters from `first` on, for a first byte and the second bytes from `trail` on -/
structure Stretch where
  lead : Nat
  trail : Nat
  first : Nat
  size : Nat

def Stretch.char? (r : Stretch) (a b : Nat) : Option Char :=
  if a = r.lead ∧ r.trail ≤ b ∧ b < r.trail + r.size then some (Char.ofNat (r.first + (b - r.trail)))
  else none

/-- the character that one of the stretches has for two bytes -/
def Stretch.find? (stretches : List Stretch) (a b : Nat) : Option Char := stretches.findSome? fun r => r.char? a b

end SnippetStudio
