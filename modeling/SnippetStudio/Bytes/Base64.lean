import SnippetStudio.Fault

/-!
# Base 64

`encode` writes three bytes as four characters, and the one or two bytes at the end with padding.
`decode` reads such a text; characters outside the alphabet are passed over, and what stands behind
complete padding is not looked at.
-/

namespace SnippetStudio

abbrev Bytes := List UInt8

namespace Base64

/-- the character for six bits -/
def letter (n : Nat) : Char :=
  if n < 26 then Char.ofNat (0x41 + n)
  else if n < 52 then Char.ofNat (0x61 + (n - 26))
  else if n < 62 then Char.ofNat (0x30 + (n - 52))
  else if n = 62 then '+'
  else '/'

/-- the six bits of a character -/
def value? (c : Char) : Option Nat :=
  if c.isUpper then some (c.toNat - 0x41)
  else if c.isLower then some (c.toNat - 0x61 + 26)
  else if c.isDigit then some (c.toNat - 0x30 + 52)
  else if c = '+' then some 62
  else if c = '/' then some 63
  else none

theorem value?_letter {n : Nat} (h : n < 64) : value? (letter n) = some n := by
  have all : ∀ m ∈ List.range 64, value? (letter m) = some m := by decide
  exact all n (List.mem_range.2 h)

def encode : Bytes → List Char
  | [] => []
  | [a] =>
    let n := a.toNat
    [letter (n / 4), letter (n % 4 * 16), '=', '=']
  | [a, b] =>
    let n := a.toNat * 256 + b.toNat
    [letter (n / 1024), letter (n / 16 % 64), letter (n % 16 * 4), '=']
  | a :: b :: c :: r =>
    let n := a.toNat * 65536 + b.toNat * 256 + c.toNat
    letter (n / 262144) :: letter (n / 4096 % 64) :: letter (n / 64 % 64) :: letter (n % 64) ::
      encode r

/-- why a text is refused -/
inductive Refusal where
  | notAscii
  | padding
  /-- one character too many; how many there are -/
  | length (count : Nat)
deriving Repr, DecidableEq

/-- the characters of the group that is being read -/
inductive Group where
  | zero
  | one (a : Nat)
  | two (a b : Nat)
  | three (a b c : Nat)
deriving Repr, DecidableEq

namespace Group

def size : Group → Nat
  | zero => 0
  | one _ => 1
  | two .. => 2
  | three .. => 3

/-- the bytes that a group not yet complete holds -/
def bytes : Group → Bytes
  | zero => []
  | one _ => []
  | two a b => [UInt8.ofNat (a * 4 + b / 16)]
  | three a b c => [UInt8.ofNat (a * 4 + b / 16), UInt8.ofNat (b % 16 * 16 + c / 4)]

end Group

/-- the text read on from a group: `full` counts the groups before, `pads` the padding since the
last character -/
def decodeFrom (full : Nat) (g : Group) (pads : Nat) : List Char → Except Refusal Bytes
  | [] =>
    match g with
    | .zero => .ok []
    | .one _ => .error (.length (full * 4 + 1))
    | _ => .error .padding
  | c :: s =>
    if c = '=' then
      if 2 ≤ g.size then
        if 4 ≤ g.size + pads + 1 then .ok g.bytes else decodeFrom full g (pads + 1) s
      else decodeFrom full g pads s
    else match value? c with
      | none => decodeFrom full g pads s
      | some v =>
        match g with
        | .zero => decodeFrom full (.one v) 0 s
        | .one a => decodeFrom full (.two a v) 0 s
        | .two a b => decodeFrom full (.three a b v) 0 s
        | .three a b d => do
          let rest ← decodeFrom (full + 1) .zero 0 s
          return UInt8.ofNat (a * 4 + b / 16) :: UInt8.ofNat (b % 16 * 16 + d / 4) ::
            UInt8.ofNat (d % 4 * 64 + v) :: rest

def decode (s : List Char) : Except Refusal Bytes :=
  if s.all fun c => c.toNat < 0x80 then decodeFrom 0 .zero 0 s else .error .notAscii

def Refusal.fault : Refusal → Fault
  | notAscii => .value "string argument should contain only ASCII characters"
  | padding => ⟨.encoding, "Incorrect padding"⟩
  | length n => ⟨.encoding, "Invalid base64-encoded string: number of data characters (" ++
      toString n ++ ") cannot be 1 more than a multiple of 4"⟩

/-- the text of bytes -/
def text (bs : Bytes) : String := String.ofList (encode bs)

end Base64

end SnippetStudio
