import SnippetStudio.Bytes.Front
import SnippetStudio.Bytes.Grid
import SnippetStudio.Bytes.Japanese.MoreRows
import SnippetStudio.Bytes.Japanese.Rows

/-!
# Japanese charsets

The characters stand in the rows of JIS X 0208.  EUC writes the row and the place as they are; shifted JIS
folds two rows into one first byte, and code page 932 adds rows to it.
-/

namespace SnippetStudio.Japanese

def grid : Grid := .ofRows rows

def moreGrid : Grid := .ofRows moreRows

def windowsGrid : Grid := .ofRows windowsRows

/-- a katakana letter of half the width, for its byte -/
def katakana? (b : Nat) : Option Char :=
  if 0xA1 ≤ b ∧ b ≤ 0xDF then some (Char.ofNat (0xFEC0 + b)) else none

/-- the column of a second byte of shifted JIS: two rows of ninety-four -/
def column? (b : Nat) : Option Nat :=
  if 0x40 ≤ b ∧ b < 0x7F then some (b - 0x40)
  else if 0x80 ≤ b ∧ b ≤ 0xFC then some (b - 0x41)
  else none

/-- whether a byte is the first of two in shifted JIS -/
def isLead (a : Nat) : Bool := (0x81 ≤ a && a ≤ 0x9F) || (0xE0 ≤ a && a ≤ 0xFC)

def shifted? (a b : Nat) : Option Char :=
  (column? b).bind fun column =>
    let lead := if a < 0xE0 then a - 0x81 else a - 0xC1
    grid.char? (2 * lead + column / 94) (column % 94)

/-- the place of a byte among the first bytes of the added rows -/
def windowsRow? (a : Nat) : Option Nat := windowsLeads.findIdx? (· == a)

/-- two bytes of code page 932; the first bytes from `0xF0` to `0xF9` are for private use -/
def windows? (a b : Nat) : Option Char :=
  match Stretch.find? windowsStretches a b with
  | some c => some c
  | none =>
    (column? b).bind fun column =>
      match windowsRow? a with
      | some row => windowsGrid.char? row column
      | none =>
        if 0xF0 ≤ a ∧ a ≤ 0xF9 then some (Char.ofNat (0xE000 + 188 * (a - 0xF0) + column))
        else if isLead a then shifted? a b
        else none

def shiftedFront : Bytes → Front
  | [] => .cut
  | a :: bs =>
    let a := a.toNat
    if a < 0x80 then .text [Char.ofNat a] 1
    else match katakana? a with
      | some c => .text [c] 1
      | none =>
        if isLead a then
          match bs with
          | [] => .cut
          | b :: _ => .ofChar? 2 (shifted? a b.toNat)
        else .bad 1

/-- the bytes of code page 932 that stand alone and are no letters -/
def windowsSingle? (a : Nat) : Option Char :=
  if a ≤ 0x80 then some (Char.ofNat a)
  else if a = 0xA0 then some (Char.ofNat 0xF8F0)
  else if 0xFD ≤ a then some (Char.ofNat (0xF8F1 + (a - 0xFD)))
  else katakana? a

def windowsFront : Bytes → Front
  | [] => .cut
  | a :: bs =>
    match windowsSingle? a.toNat with
    | some c => .text [c] 1
    | none =>
      match bs with
      | [] => .cut
      | b :: _ => .ofChar? 2 (windows? a.toNat b.toNat)

/-- EUC: `0x8E` stands before katakana of half the width, `0x8F` before two bytes of JIS X 0212 -/
def eucFront : Bytes → Front
  | [] => .cut
  | 0x8E :: bs =>
    match bs with
    | [] => .cut
    | b :: _ => .ofChar? 2 (katakana? b.toNat)
  | 0x8F :: bs =>
    match bs with
    | a :: b :: _ =>
      .ofChar? 3 (if 0x80 ≤ a ∧ 0x80 ≤ b then moreGrid.graphic? (a.toNat - 0x80) (b.toNat - 0x80) else none)
    | _ => .cut
  | bs =>
    doubleFront
      (fun a b => if 0x80 ≤ a ∧ 0x80 ≤ b then grid.graphic? (a - 0x80) (b - 0x80) else none) bs

end SnippetStudio.Japanese
