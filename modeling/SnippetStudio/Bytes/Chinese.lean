import SnippetStudio.Bytes.Chinese.ExtendedRows
import SnippetStudio.Bytes.Chinese.FullRows
import SnippetStudio.Bytes.Chinese.Rows
import SnippetStudio.Bytes.Chinese.TraditionalRows
import SnippetStudio.Bytes.Front
import SnippetStudio.Bytes.Unicode

/-!
# Chinese charsets

GBK has all the characters of GB 2312, and GB 18030 all those of GBK; its characters of four bytes are all
that Unicode has besides.  Big 5 is for traditional characters.
-/

namespace SnippetStudio.Chinese

def grid : Grid := .ofRows rows

def leftGrid : Grid := .ofRows leftRows

def rightGrid : Grid := .ofRows rightRows

def traditionalGrid : Grid := .ofRows traditionalRows

/-- two bytes of GB 2312 -/
def simplified? (a b : Nat) : Option Char :=
  if 0x80 ≤ a ∧ 0x80 ≤ b then grid.graphic? (a - 0x80) (b - 0x80) else none

/-- the column of a second byte below `0xA1` -/
def leftColumn? (b : Nat) : Option Nat :=
  if 0x40 ≤ b ∧ b < 0x7F then some (b - 0x40)
  else if 0x80 ≤ b ∧ b ≤ 0xA0 then some (b - 0x41)
  else none

/-- two bytes of GBK -/
def extended? (a b : Nat) : Option Char :=
  if a < 0x81 then none
  else match leftColumn? b with
    | some column => leftGrid.char? (a - 0x81) column
    | none =>
      if b < 0xA1 then none
      else if a < 0xA1 then rightGrid.char? (a - 0x81) (b - 0xA1)
      else match Stretch.find? extendedStretches a b with
        | some c => some c
        | none => simplified? a b

/-- two bytes for private use, in GB 18030 -/
def private? (a b : Nat) : Option Char :=
  match leftColumn? b with
  | some column => if 0xA1 ≤ a ∧ a ≤ 0xA7 then some (Char.ofNat (0xE4C6 + (a - 0xA1) * 96 + column)) else none
  | none =>
    if b < 0xA1 ∨ 0xFE < b then none
    else if 0xAA ≤ a ∧ a ≤ 0xAF then some (Char.ofNat (0xE000 + (a - 0xAA) * 94 + (b - 0xA1)))
    else if 0xF8 ≤ a ∧ a ≤ 0xFE then some (Char.ofNat (0xE234 + (a - 0xF8) * 94 + (b - 0xA1)))
    else none

/-- two bytes of GB 18030 -/
def full? (a b : Nat) : Option Char :=
  ((extended? a b).or (Stretch.find? addedStretches a b)).or (private? a b)

/-- the number of a character of four bytes, by its place in their order -/
def stepped? (n : Nat) : Option Nat :=
  if 39420 ≤ n then none
  else ((steps.takeWhile fun s => s.1 ≤ n).getLast?).map fun s => s.2 + (n - s.1)

/-- four bytes of GB 18030; the second and the fourth are digits -/
def quadruple? (a b c d : Nat) : Option Char :=
  if a < 0x81 ∨ 0xFE < a ∨ c < 0x81 ∨ 0xFE < c ∨ d < 0x30 ∨ 0x39 < d then none
  else
    let tail := (b - 0x30) * 1260 + (c - 0x81) * 10 + (d - 0x30)
    if a < 0x85 then (stepped? ((a - 0x81) * 12600 + tail)).map Char.ofNat
    else if 0x90 ≤ a then
      let n := 0x10000 + (a - 0x90) * 12600 + tail
      if n ≤ 0x10FFFF then some (Char.ofNat n) else none
    else none

def fullFront : Bytes → Front
  | [] => .cut
  | a :: bs =>
    if a < 0x80 then .text [Char.ofNat a.toNat] 1
    else match bs with
      | [] => .cut
      | b :: bs =>
        if 0x30 ≤ b ∧ b ≤ 0x39 then
          match bs with
          | c :: d :: _ => .ofChar? 4 (quadruple? a.toNat b.toNat c.toNat d.toNat)
          | _ => .cut
        else .ofChar? 2 (full? a.toNat b.toNat)

/-- the column of a second byte of Big 5 -/
def traditionalColumn? (b : Nat) : Option Nat :=
  if 0x40 ≤ b ∧ b < 0x7F then some (b - 0x40)
  else if 0xA1 ≤ b ∧ b ≤ 0xFE then some (b - 0xA1 + 63)
  else none

/-- two bytes of Big 5 -/
def traditional? (a b : Nat) : Option Char :=
  if a < 0xA1 then none else (traditionalColumn? b).bind fun column => traditionalGrid.char? (a - 0xA1) column

/-- two bytes of code page 950 -/
def windows? (a b : Nat) : Option Char := (Stretch.find? traditionalStretches a b).or (traditional? a b)

/-- the two kinds of text in HZ: characters of two bytes stand in braces -/
inductive Mode where
  | ascii
  | double
deriving Repr, DecidableEq

/-- HZ, where a tilde announces all that is no character -/
def tildeFront (m : Mode) : Bytes → Front × Mode
  | [] => (.cut, m)
  | a :: bs =>
    if a = 0x7E then
      match bs with
      | [] => (.cut, m)
      | b :: _ =>
        match m, Char.ofNat b.toNat with
        | .ascii, '~' => (.text ['~'] 2, .ascii)
        | .ascii, '\x7b' => (.text [] 2, .double)
        | .ascii, '\n' => (.text [] 2, .ascii)
        | .double, '\x7d' => (.text [] 2, .ascii)
        | _, _ => (.bad 1, m)
    else if 0x80 ≤ a then (.bad 1, m)
    else match m with
      | .ascii => (.text [Char.ofNat a.toNat] 1, m)
      | .double =>
        match bs with
        | [] => (.cut, m)
        | b :: _ => (.ofChar? 2 (grid.graphic? a.toNat b.toNat), m)

end SnippetStudio.Chinese
