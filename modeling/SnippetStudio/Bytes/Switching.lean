import SnippetStudio.Bytes.Charts
import SnippetStudio.Bytes.Chinese
import SnippetStudio.Bytes.Japanese
import SnippetStudio.Bytes.Korean

/-!
# Charsets that switch between sets

In ISO 2022 an escape sequence calls a set of characters into one of three slots, and the bytes after it are
characters of the slot that is in use.  Other escape sequences pass through as they are.
-/

namespace SnippetStudio.Switching

/-- sets of characters, of one or of two bytes below `0x80` -/
inductive Repertoire where
  | ascii
  | roman
  | katakana
  | japanese
  | moreJapanese
  | korean
  | chinese
  /-- the upper half of ISO 8859, part 1 -/
  | western
  /-- the upper half of ISO 8859, part 7 -/
  | greek
deriving Repr, DecidableEq

/-- what names a set in an escape sequence: whether it has two bytes, and the last letter -/
abbrev Mark := Bool × Char

/-- a charset of the family -/
structure Family where
  /-- the sets that can be called -/
  sets : List (Mark × Repertoire)
  /-- two control characters change between the first and the second slot -/
  shifts : Bool := false
  /-- an escape sequence takes the next character from the third slot -/
  singles : Bool := false
  /-- an escape sequence may announce the second edition of the Japanese set -/
  announces : Bool := true
deriving Repr, DecidableEq

namespace Family

def japaneseSets : List (Mark × Repertoire) :=
  [((true, 'B'), .japanese), ((true, '@'), .japanese), ((false, 'J'), .roman)]

def japanese : Family where sets := japaneseSets

def japanese1 : Family where sets := ((true, 'D'), .moreJapanese) :: japaneseSets

def japanese2 : Family where
  sets := ((true, 'C'), .korean) :: ((true, 'A'), .chinese) :: ((false, 'A'), .western) ::
    ((false, 'F'), .greek) :: japanese1.sets
  singles := true

def japaneseExtended : Family where sets := ((false, 'I'), .katakana) :: japanese1.sets

def korean : Family where
  sets := [((true, 'C'), .korean)]
  shifts := true
  announces := false

end Family

structure State where
  /-- the set in use -/
  first : Repertoire := .ascii
  second : Repertoire := .ascii
  third : Repertoire := .ascii
  /-- the second slot is in use -/
  shifted : Bool := false
  /-- inside an escape sequence that passes through -/
  passing : Bool := false
deriving Repr, DecidableEq

/-- the last character of an escape sequence -/
def isEnd (b : UInt8) : Bool := (0x41 ≤ b && b ≤ 0x5A) || b == 0x40

/-- what stands after the escape character where a set is called -/
def isCall (b : UInt8) : Bool := b == 0x28 || b == 0x29 || b == 0x24 || b == 0x2E || b == 0x26

/-- the longest escape sequence that is looked for -/
def longest : Nat := 16

/-- the length of an escape sequence, as `some 0` where it has no end; none where it is cut off -/
def sequence? (announces : Bool) : Nat → Nat → Bytes → Option Nat
  | 0, _, _ => some 0
  | _ + 1, _, [] => none
  | fuel + 1, i, b :: bs =>
    if longest ≤ i then some 0
    else if isEnd b then some (i + 1)
    else match announces, b, bs with
      | true, 0x26, 0x40 :: bs => 
        match bs with
        | _ :: bs => sequence? announces fuel (i + 3) bs
        | [] => if longest ≤ i + 3 then some 0 else none
      | _, _, _ => sequence? announces fuel (i + 1) bs

/-- the slot and the mark that an escape sequence of some length speaks of -/
def call? (f : Family) (size : Nat) (bs : Bytes) : Option (Nat × Mark) :=
  match size, bs.map fun b => Char.ofNat b.toNat with
  | 3, _ :: '$' :: m :: _ => some (0, true, m)
  | 3, _ :: '(' :: m :: _ => some (0, false, m)
  | 3, _ :: ')' :: m :: _ => some (1, false, m)
  | 3, _ :: '.' :: m :: _ => if f.singles then some (2, false, m) else none
  | 4, _ :: '$' :: '(' :: m :: _ => some (0, true, m)
  | 4, _ :: '$' :: ')' :: m :: _ => some (1, true, m)
  | 6, _ :: _ :: _ :: '\x1b' :: '$' :: 'B' :: _ => if f.announces then some (0, true, 'B') else none
  | _, _ => none

def Family.set? (f : Family) (m : Mark) : Option Repertoire :=
  if m = (false, 'B') then some .ascii else f.sets.lookup m

def State.put (s : State) (slot : Nat) (r : Repertoire) : State :=
  match slot with
  | 0 => { s with first := r }
  | 1 => { s with second := r }
  | _ => { s with third := r }

/-- an escape sequence that calls a set -/
def callFront (f : Family) (s : State) (bs : Bytes) : Front × State :=
  match sequence? f.announces longest 1 (bs.drop 1) with
  | none => (.cut, s)
  | some 0 => (.bad 1, s)
  | some size =>
    match (call? f size bs).bind fun c => (f.set? c.2).map fun r => (c.1, r) with
    | some (slot, r) => (.text [] size, s.put slot r)
    | none => (.bad size, s)

/-- the character of a chart at a byte of the upper half -/
def upper? (chart : String) (b : Nat) : Option Char :=
  match chart.toList[b - (256 - chart.length)]? with
  | some '\uFFFD' => none
  | found => if b < 256 - chart.length then some (Char.ofNat b) else found

/-- the character that the third slot has for a byte -/
def single? (r : Repertoire) (b : UInt8) : Option Char :=
  match r with
  | .western => if b < 0x80 then some (Char.ofNat (b.toNat + 0x80)) else none
  | .greek => if b < 0x80 then upper? Chart.greek (b.toNat + 0x80) else some (Char.ofNat (b.toNat - 0x80))
  | _ => if b < 0x80 then some (Char.ofNat b.toNat) else none

/-- a character of one byte -/
def narrow? (r : Repertoire) (b : Nat) : Option Char :=
  match r with
  | .ascii => some (Char.ofNat b)
  | .roman => some (if b = 0x5C then '¥' else if b = 0x7E then '‾' else Char.ofNat b)
  | .katakana => Japanese.katakana? (b + 0x80)
  | _ => none

/-- a character of two bytes -/
def wide? (r : Repertoire) (a b : Nat) : Option Char :=
  match r with
  | .japanese => Japanese.grid.graphic? a b
  | .moreJapanese => Japanese.moreGrid.graphic? a b
  | .korean => Korean.grid.graphic? a b
  | .chinese => Chinese.grid.graphic? a b
  | _ => none

def isWide : Repertoire → Bool
  | .japanese | .moreJapanese | .korean | .chinese => true
  | _ => false

def graphicFront (r : Repertoire) (a : UInt8) (bs : Bytes) : Front :=
  if isWide r then
    match bs with
    | [] => .cut
    | b :: _ =>
      match wide? r a.toNat b.toNat with
      | some c => .text [c] 2
      | none => .bad 2
  else .ofChar? 1 (narrow? r a.toNat)

def front (f : Family) (s : State) : Bytes → Front × State
  | [] => (.cut, s)
  | a :: bs =>
    let one : List Char := [Char.ofNat a.toNat]
    if s.passing then (.text one 1, { s with passing := !isEnd a })
    else if a = 0x1B then
      match bs with
      | [] => (.cut, s)
      | b :: bs' =>
        if isCall b then callFront f s (a :: bs)
        else if f.singles && b == 0x4E then
          match bs' with
          | [] => (.cut, s)
          | c :: _ =>
            match single? s.third c with
            | some c => (.text [c] 3, s)
            | none => (.bad 3, s)
        else (.text one 1, { s with passing := true })
    else if f.shifts && a == 0x0F then (.text [] 1, { s with shifted := false })
    else if f.shifts && a == 0x0E then (.text [] 1, { s with shifted := true })
    else if a = 0x0A then (.text one 1, { s with shifted := false })
    else if a < 0x20 then (.text one 1, s)
    else if 0x80 ≤ a then (.bad 1, s)
    else (graphicFront (if s.shifted then s.second else s.first) a bs, s)

end SnippetStudio.Switching
