import SnippetStudio.Bytes.Unicode

/-!
# UTF-7

A plus sign begins a piece of UTF-16 in base 64, and what is no letter of base 64 ends it; a hyphen that ends
it is no part of the text.  Everything else is ASCII.
-/

namespace SnippetStudio

namespace Utf7

/-- the state inside a piece of base 64: bits that are left, how many they are, and half of a pair -/
structure Piece where
  bits : Nat := 0
  size : Nat := 0
  high : Option Nat := none
deriving Repr, DecidableEq

inductive State where
  | plain
  /-- after a plus sign -/
  | opened
  | inside (p : Piece)
deriving Repr, DecidableEq

/-- a unit of sixteen bits after the pieces before it -/
def Piece.unit (p : Piece) (u : Nat) : List Char × Option Nat :=
  let before := if p.high.isSome then [replacement] else []
  match p.high with
  | some h =>
    if 0xDC00 ≤ u ∧ u < 0xE000 then
      ([Char.ofNat (0x10000 + (h - 0xD800) * 0x400 + (u - 0xDC00))], none)
    else if 0xD800 ≤ u ∧ u < 0xDC00 then (before, some u)
    else (before ++ [Charset.scalar u], none)
  | none => if 0xD800 ≤ u ∧ u < 0xDC00 then ([], some u) else ([Charset.scalar u], none)

/-- six more bits -/
def Piece.add (p : Piece) (six : Nat) : List Char × Piece :=
  let bits := p.bits * 64 + six
  let size := p.size + 6
  if 16 ≤ size then
    let (s, high) := p.unit (bits >>> (size - 16))
    (s, ⟨bits % (1 <<< (size - 16)), size - 16, high⟩)
  else ([], ⟨bits, size, p.high⟩)

/-- bits are left that are no padding -/
def Piece.isBroken (p : Piece) : Bool := decide (6 ≤ p.size) || (decide (0 < p.size) && p.bits != 0)

def plain (c : Char) : List Char × State :=
  if c = '+' then ([], .opened) else if c.toNat < 0x80 then ([c], .plain) else ([replacement], .plain)

def step (s : State) (c : Char) : List Char × State :=
  match s with
  | .plain => plain c
  | .opened =>
    if c = '-' then (['+'], .plain)
    else match Base64.value? c with
      | some six => let (s, p) := ({} : Piece).add six; (s, .inside p)
      | none => ([replacement], .plain)
  | .inside p =>
    match Base64.value? c with
    | some six => let (s, p) := p.add six; (s, .inside p)
    | none =>
      if p.isBroken then ([replacement], .plain)
      else
        let before := if p.high.isSome && decide (c.toNat < 0x80) && c != '+' then [replacement] else []
        if c = '-' then (before, .plain)
        else
          let (s, next) := plain c
          (before ++ s, next)

def finish : State → List Char
  | .inside p => if p.high.isSome || p.isBroken then [replacement] else []
  | _ => []

def decode (s : State) : Bytes → List Char
  | [] => finish s
  | b :: bs =>
    let (t, next) := step s (Char.ofNat b.toNat)
    t ++ decode next bs

end Utf7

end SnippetStudio
