import SnippetStudio.Bytes.Front
import SnippetStudio.Bytes.Grid
import SnippetStudio.Bytes.Korean.Rows

/-!
# Korean charsets

The characters stand in the rows of KS X 1001.  EUC can also spell a syllable that is not among them with its
letters; code page 949 has the other syllables, in their order, at the bytes that EUC leaves free.
-/

namespace SnippetStudio.Korean

def grid : Grid := .ofRows rows

/-- a character of two bytes of EUC -/
def char? (a b : Nat) : Option Char :=
  if 0x80 ≤ a ∧ 0x80 ≤ b then grid.graphic? (a - 0x80) (b - 0x80) else none

/-- the byte of the row of letters -/
def letterRow : UInt8 := 0xA4

/-- the byte of the letter that stands before a spelt syllable, and where its end is empty -/
def filler : UInt8 := 0xD4

/-- the consonants from `0xA1` on that can begin a syllable, by their number there -/
def initials : List (Option Nat) :=
  [some 0, some 1, none, some 2, none, none, some 3, some 4, some 5, none, none, none, none, none, none,
   none, some 6, some 7, some 8, none, some 9, some 10, some 11, some 12, some 13, some 14, some 15,
   some 16, some 17, some 18]

/-- the consonants from `0xA1` on that can end a syllable, by their number there -/
def finals : List (Option Nat) :=
  [some 1, some 2, some 3, some 4, some 5, some 6, some 7, none, some 8, some 9, some 10, some 11,
   some 12, some 13, some 14, some 15, some 16, some 17, none, some 18, some 19, some 20, some 21,
   some 22, none, some 23, some 24, some 25, some 26, some 27]

def consonant? (numbers : List (Option Nat)) (b : UInt8) : Option Nat :=
  if 0xA1 ≤ b then (numbers[b.toNat - 0xA1]?).join else none

def vowel? (b : UInt8) : Option Nat := if 0xBF ≤ b ∧ b ≤ 0xD3 then some (b.toNat - 0xBF) else none

def final? (b : UInt8) : Option Nat := if b = filler then some 0 else consonant? finals b

/-- the syllable of an initial, a vowel and a final -/
def syllable (initial vowel final : Nat) : Char := Char.ofNat (0xAC00 + initial * 588 + vowel * 28 + final)

def spelt? (a b c : UInt8) : Option Char := do
  return syllable (← consonant? initials a) (← vowel? b) (← final? c)

def eucFront : Bytes → Front
  | 0xA4 :: 0xD4 :: bs =>
    match bs with
    | r :: a :: s :: b :: t :: c :: _ =>
      .ofChar? 8 (if r = letterRow ∧ s = letterRow ∧ t = letterRow then spelt? a b c else none)
    | _ => .cut
  | bs => doubleFront char? bs

/-- the syllables of a range that are not among some others, both in their order -/
def others : List Nat → List Nat → List Nat
  | [], _ => []
  | n :: ns, [] => n :: others ns []
  | n :: ns, m :: ms => if n = m then others ns ms else n :: others ns (m :: ms)

/-- the syllables that KS X 1001 does not have -/
def otherSyllables : Array Nat :=
  (others (List.range' 0xAC00 11172)
    ((rows.flatMap fun r => r.toList.map Char.toNat).filter fun n => 0xAC00 ≤ n && n ≤ 0xD7A3)).toArray

/-- the number of a second byte of code page 949 -/
def windowsColumn? (b : Nat) : Option Nat :=
  if 0x41 ≤ b ∧ b ≤ 0x5A then some (b - 0x41)
  else if 0x61 ≤ b ∧ b ≤ 0x7A then some (b - 0x61 + 26)
  else if 0x81 ≤ b ∧ b ≤ 0xFE then some (b - 0x81 + 52)
  else none

/-- the place of two bytes in the order of the other syllables; from `0xA1` on EUC has the second half -/
def windowsPlace? (a b : Nat) : Option Nat :=
  (windowsColumn? b).bind fun column =>
    if 0x81 ≤ a ∧ a ≤ 0xA0 then some ((a - 0x81) * 178 + column)
    else if 0xA1 ≤ a ∧ a ≤ 0xC6 ∧ column < 84 then some (32 * 178 + (a - 0xA1) * 84 + column)
    else none

def windows? (a b : Nat) : Option Char :=
  match char? a b with
  | some c => some c
  | none => ((windowsPlace? a b).bind fun n => otherSyllables[n]?).map Char.ofNat

end SnippetStudio.Korean
