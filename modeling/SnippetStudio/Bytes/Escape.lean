import SnippetStudio.Bytes.Unicode

/-!
# Text with escapes

Each byte is the character of its own number, but a backslash begins an escape: a letter that stands for a
control character, or digits that are the number of a character.
-/

namespace SnippetStudio.Escape

/-- what a letter after a backslash stands for -/
def letter? (c : Char) : Option (List Char) :=
  match c with
  | '\n' => some []
  | '\\' => some ['\\']
  | '\'' => some ['\'']
  | '"' => some ['"']
  | 'b' => some ['\x08']
  | 't' => some ['\t']
  | 'n' => some ['\n']
  | 'r' => some ['\r']
  | 'v' => some ['\x0b']
  | 'f' => some ['\x0c']
  | 'a' => some ['\x07']
  | _ => none

/-- how many hexadecimal digits a letter announces -/
def width? (c : Char) : Option Nat :=
  match c with
  | 'x' => some 2
  | 'u' => some 4
  | 'U' => some 8
  | _ => none

def hex? (c : Char) : Option Nat :=
  if c.isDigit then some (c.toNat - 0x30)
  else if 'a' ≤ c ∧ c ≤ 'f' then some (c.toNat - 0x57)
  else if 'A' ≤ c ∧ c ≤ 'F' then some (c.toNat - 0x37)
  else none

def isOctal (c : Char) : Bool := '0' ≤ c && c ≤ '7'

/-- the number that digits write -/
def number (base : Nat) (digits : List Char) : Nat :=
  digits.foldl (fun n c => base * n + (hex? c).getD 0) 0

/-- so many hexadecimal digits after a backslash and a letter -/
def numbered (width : Nat) (s : List Char) : Front :=
  let digits := (s.take width).takeWhile fun c => (hex? c).isSome
  let size := digits.length + 2
  if digits.length < width then .bad size
  else
    let n := number 16 digits
    if 0x110000 ≤ n then .bad size else .text [Charset.scalar n] size

/-- a name in braces: names of characters are not known -/
def named (s : List Char) : Front :=
  match s with
  | '\x7b' :: s =>
    let name := s.takeWhile (· != '\x7d')
    if name.length < s.length then .bad (name.length + 4) else .bad (name.length + 3)
  | _ => .bad 2

/-- the front of a text after a backslash -/
def escaped : List Char → Front
  | [] => .cut
  | c :: s =>
    match letter? c, width? c with
    | some t, _ => .text t 2
    | none, some width => numbered width s
    | none, none =>
      if isOctal c then
        let digits := ((c :: s).take 3).takeWhile isOctal
        .text [Char.ofNat (number 8 digits)] (digits.length + 1)
      else if c = 'N' then named s
      else .text ['\\', c] 2

def chars (bs : Bytes) : List Char := bs.map fun b => Char.ofNat b.toNat

def front : Bytes → Front
  | [] => .cut
  | b :: bs => if b = 0x5C then escaped (chars bs) else .text [Char.ofNat b.toNat] 1

/-- the front of a text in which only numbers of four or eight digits are escapes -/
def rawFront : Bytes → Front
  | 0x5C :: 0x75 :: bs => numbered 4 (chars (bs.take 4))
  | 0x5C :: 0x55 :: bs => numbered 8 (chars (bs.take 8))
  | 0x5C :: b :: _ => .text ['\\', Char.ofNat b.toNat] 2
  | b :: _ => .text [Char.ofNat b.toNat] 1
  | [] => .cut

end SnippetStudio.Escape
