import SnippetStudio.Bytes.Front

/-!
# The forms of Unicode

In UTF-8 a character is one to four bytes; each longest beginning of a character that is cut off is read as
one replacement character (`decodeUtf8`).  UTF-16 and UTF-32 have units of two and of four bytes.  Where a
mark at the front must tell the order of the bytes, and does not, there is no text.
-/

namespace SnippetStudio

namespace Charset

/-- how many bytes follow a first byte, the bounds of the second byte, and the first byte's bits -/
def lead? (b : Nat) : Option (Nat × Nat × Nat × Nat) :=
  if 0xC2 ≤ b ∧ b ≤ 0xDF then some (1, 0x80, 0xBF, b % 32)
  else if b = 0xE0 then some (2, 0xA0, 0xBF, 0)
  else if b = 0xED then some (2, 0x80, 0x9F, 0xD)
  else if 0xE1 ≤ b ∧ b ≤ 0xEF then some (2, 0x80, 0xBF, b % 16)
  else if b = 0xF0 then some (3, 0x90, 0xBF, 0)
  else if 0xF1 ≤ b ∧ b ≤ 0xF3 then some (3, 0x80, 0xBF, b % 8)
  else if b = 0xF4 then some (3, 0x80, 0x8F, 4)
  else none

/-- the state inside a character: bytes to come, the bounds of the next one, the bits so far -/
structure Partial where
  more : Nat
  low : Nat
  high : Nat
  bits : Nat
deriving Repr, DecidableEq

def startUtf8 (b : Nat) : List Char × Option Partial :=
  if b < 0x80 then ([Char.ofNat b], none)
  else match lead? b with
    | some (more, low, high, bits) => ([], some ⟨more, low, high, bits⟩)
    | none => ([replacement], none)

def stepUtf8 (p : Option Partial) (b : Nat) : List Char × Option Partial :=
  match p with
  | none => startUtf8 b
  | some p =>
    if p.low ≤ b ∧ b ≤ p.high then
      let bits := p.bits * 64 + b % 64
      if p.more = 1 then ([Char.ofNat bits], none) else ([], some ⟨p.more - 1, 0x80, 0xBF, bits⟩)
    else
      let next := startUtf8 b
      (replacement :: next.1, next.2)

def decodeUtf8 (p : Option Partial) : Bytes → List Char
  | [] => if p.isSome then [replacement] else []
  | b :: bs =>
    let next := stepUtf8 p b.toNat
    next.1 ++ decodeUtf8 next.2 bs

/-- UTF-8 after a mark that is no part of the text -/
def decodeUtf8Signed : Bytes → List Char
  | 0xEF :: 0xBB :: 0xBF :: bs => decodeUtf8 none bs
  | [0xEF, 0xBB] => []
  | [0xEF] => []
  | bs => decodeUtf8 none bs

/-- the 16-bit units of bytes; none for a byte that stands alone at the end -/
def units (bigEndian : Bool) : Bytes → List (Option Nat)
  | [] => []
  | [_] => [none]
  | a :: b :: r =>
    some (if bigEndian then a.toNat * 256 + b.toNat else b.toNat * 256 + a.toNat) ::
      units bigEndian r

def decodeUnits (high : Option Nat) : List (Option Nat) → List Char
  | [] => if high.isSome then [replacement] else []
  | none :: r => replacement :: decodeUnits none r
  | some u :: r =>
    if 0xDC00 ≤ u ∧ u < 0xE000 then
      match high with
      | some h => Char.ofNat (0x10000 + (h - 0xD800) * 0x400 + (u - 0xDC00)) :: decodeUnits none r
      | none => replacement :: decodeUnits none r
    else
      let cut := if high.isSome then [replacement] else []
      if 0xD800 ≤ u ∧ u < 0xDC00 then cut ++ decodeUnits (some u) r
      else cut ++ Char.ofNat u :: decodeUnits none r

def unmarked (form : String) : Fault :=
  ⟨.unknown "UnicodeError", form ++ " stream does not start with BOM"⟩

def decodeUtf16 (bigEndian : Bool) (bs : Bytes) : List Char := decodeUnits none (units bigEndian bs)

def decodeUtf16Marked : Bytes → Except Fault (List Char)
  | 0xFF :: 0xFE :: bs => .ok (decodeUtf16 false bs)
  | 0xFE :: 0xFF :: bs => .ok (decodeUtf16 true bs)
  | _ :: _ :: _ => .error (unmarked "UTF-16")
  | bs => .ok (decodeUtf16 false bs)

/-- the character of a number, where it is one -/
def scalar (n : Nat) : Char := if n.isValidChar then Char.ofNat n else replacement

def decodeUtf32 (bigEndian : Bool) : Bytes → List Char
  | [] => []
  | a :: b :: c :: d :: bs =>
    let n := if bigEndian then ((a.toNat * 256 + b.toNat) * 256 + c.toNat) * 256 + d.toNat
      else ((d.toNat * 256 + c.toNat) * 256 + b.toNat) * 256 + a.toNat
    scalar n :: decodeUtf32 bigEndian bs
  | _ => [replacement]

def decodeUtf32Marked : Bytes → Except Fault (List Char)
  | 0xFF :: 0xFE :: 0 :: 0 :: bs => .ok (decodeUtf32 false bs)
  | 0 :: 0 :: 0xFE :: 0xFF :: bs => .ok (decodeUtf32 true bs)
  | _ :: _ :: _ :: _ :: _ => .error (unmarked "UTF-32")
  | bs => .ok (decodeUtf32 false bs)

end Charset

/-- the bytes of a text in UTF-8 -/
def utf8Bytes (s : String) : Bytes := s.toUTF8.toList

end SnippetStudio
