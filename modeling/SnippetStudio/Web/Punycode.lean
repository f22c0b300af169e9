/-!
# Punycode

A text with any characters is written with those of ASCII alone (`encode`, `decode`): first its characters of
ASCII, then behind a hyphen, in the order of their codes, where each of the others is to be put in.  A place is
a number of how many places it is further than the one before; its digits are worth more or less as the
numbers before it were large or small.
-/

namespace SnippetStudio.Punycode

/-- the 36 digits: small letters, then the decimal ones -/
def digit (n : Nat) : Char := if n < 26 then Char.ofNat (0x61 + n) else Char.ofNat (0x16 + n)

def value? (c : Char) : Option Nat :=
  if c.isLower then some (c.toNat - 0x61)
  else if c.isUpper then some (c.toNat - 0x41)
  else if c.isDigit then some (c.toNat - 0x16)
  else none

/-- the digits below the threshold of their place end a number -/
def threshold (place bias : Nat) : Nat := if place ≤ bias then 1 else min 26 (place - bias)

theorem threshold_pos (place bias : Nat) : 1 ≤ threshold place bias := by
  unfold threshold
  split <;> omega

/-- a number brought down below 456, and 36 for each division that this took -/
def lowered (n : Nat) : Nat × Nat :=
  if 455 < n then
    let r := lowered (n / 35)
    (r.1, r.2 + 36)
  else (n, 0)
termination_by n
decreasing_by exact Nat.div_lt_self (by omega) (by omega)

/-- the bias for the next number: `n` is the last one, `count` how many characters there are now -/
def adapt (isFirst : Bool) (n count : Nat) : Nat :=
  let n := if isFirst then n / 700 else n / 2
  let (n, places) := lowered (n + n / count)
  places + 36 * n / (n + 38)

/-! ## Writing -/

/-- the digits of a number from a place on, the lowest one first -/
def writeNumber (bias place n : Nat) : List Char :=
  let t := threshold place bias
  if n < t then [digit n]
  else digit (t + (n - t) % (36 - t)) :: writeNumber bias (place + 36) ((n - t) / (36 - t))
termination_by n
decreasing_by
  have := threshold_pos place bias
  exact Nat.lt_of_le_of_lt (Nat.div_le_self _ _) (by omega)

structure Writing where
  out : List Char := []
  /-- places since the last character that was put in -/
  places : Nat := 0
  bias : Nat := 72
  /-- characters written so far, and whether none of them had to be put in -/
  count : Nat
  isFirst : Bool := true

/-- one character of the text passed, while those with the code `code` are put in -/
def Writing.pass (code : Nat) (w : Writing) (c : Char) : Writing :=
  if c.toNat < code then { w with places := w.places + 1 }
  else if c.toNat = code then
    { out := w.out ++ writeNumber w.bias 36 w.places
      bias := adapt w.isFirst w.places (w.count + 1)
      count := w.count + 1
      isFirst := false }
  else w

/-- the characters with the given codes put in, the first code being `next` at least -/
def writeAll (text : List Char) (next : Nat) (w : Writing) : List Nat → Writing
  | [] => w
  | code :: codes =>
    let w := { w with places := w.places + (code - next) * (w.count + 1) }
    let w := text.foldl (Writing.pass code) w
    writeAll text (code + 1) { w with places := w.places + 1 } codes

def isBasic (c : Char) : Bool := c.toNat < 0x80

def encode (text : List Char) : List Char :=
  let basic := text.filter isBasic
  let codes := ((text.filter (!isBasic ·)).map Char.toNat).mergeSort.eraseDups
  basic ++ (if basic.isEmpty then [] else ['-']) ++
    (writeAll text 0x80 { count := basic.length } codes).out

/-! ## Reading -/

/-- a number from a place on, added to `n`, and what is left -/
def readNumber (bias : Nat) : Nat → Nat → Nat → List Char → Option (Nat × List Char)
  | _, _, _, [] => none
  | place, weight, n, c :: s =>
    match value? c with
    | none => none
    | some d =>
      let t := threshold place bias
      let n := n + d * weight
      if d < t then some (n, s) else readNumber bias (place + 36) (weight * (36 - t)) n s

/-- characters put in up to the end; the fuel is more than the characters that are left -/
def readAll : Nat → Bool → Nat → Nat → Nat → List Char → List Char → Option (List Char)
  | 0, _, _, _, _, _, _ => none
  | _, _, _, _, _, out, [] => some out
  | fuel + 1, isFirst, bias, code, place, out, s =>
    match readNumber bias 36 1 0 s with
    | none => none
    | some (n, rest) =>
      let count := out.length + 1
      let code := code + (place + n) / count
      let place := (place + n) % count
      if h : code.isValidChar then
        readAll fuel false (adapt isFirst n count) code (place + 1) (out.insertIdx place (Char.ofNatAux code h)) rest
      else none

def decode (s : List Char) : Option (List Char) :=
  let behind := (s.reverse.takeWhile (· != '-')).reverse
  readAll (behind.length + 1) true 72 0x80 0 (s.take (s.length - behind.length - 1)) behind

end SnippetStudio.Punycode
