import SnippetStudio.Bytes.Unicode

/-!
# Percent signs in addresses

A character that may not stand in a part of an address is written as the bytes of its UTF-8 form, each
behind a percent sign (`encode`); what is written so already is left alone (`quote`).  In a form,
a blank is written as a plus sign (`encodeForm`, `decodeForm`).
-/

namespace SnippetStudio.Percent

def isHex (c : Char) : Bool := c.isDigit || ('a' ≤ c && c ≤ 'f') || ('A' ≤ c && c ≤ 'F')

def hexValue (c : Char) : Nat :=
  if c.isDigit then c.toNat - 0x30 else if 'a' ≤ c then c.toNat - 0x57 else c.toNat - 0x37

def hexDigit (n : Nat) : Char := Char.ofNat (if n < 10 then 0x30 + n else 0x37 + n)

/-- a byte behind a percent sign -/
def byte (b : UInt8) : List Char := ['%', hexDigit (b.toNat / 16), hexDigit (b.toNat % 16)]

/-- a character that stands for itself in every part of an address -/
def isPlain (c : Char) : Bool :=
  c.isAlphanum || c == '-' || c == '.' || c == '_' || c == '~'

def encodeChar (c : Char) : List Char := (utf8Bytes (String.singleton c)).flatMap byte

/-- a text in which only plain and allowed characters stand for themselves -/
def encode (allowed : Char → Bool) (s : List Char) : List Char :=
  s.flatMap fun c => if isPlain c || allowed c then [c] else encodeChar c

/-- two hexadecimal digits come first -/
def startsWithHex : List Char → Bool
  | a :: b :: _ => isHex a && isHex b
  | _ => false

/-- as `encode`, but bytes behind percent signs stay as they are -/
def quote (allowed : Char → Bool) : List Char → List Char
  | [] => []
  | c :: s =>
    (if c == '%' && startsWithHex s then [c] else encode allowed [c]) ++ quote allowed s

/-- the bytes that a text stands for -/
def bytes : List Char → Bytes
  | '%' :: a :: b :: s =>
    if isHex a && isHex b then UInt8.ofNat (16 * hexValue a + hexValue b) :: bytes s
    else 0x25 :: bytes (a :: b :: s)
  | c :: s => utf8Bytes (String.singleton c) ++ bytes s
  | [] => []
termination_by s => s.length

def decode (s : List Char) : List Char := Charset.decodeUtf8 none (bytes s)

/-- a name or a value of a form -/
def encodeForm (s : List Char) : List Char :=
  s.flatMap fun c => if c == ' ' then ['+'] else if isPlain c then [c] else encodeChar c

def decodeForm (s : List Char) : List Char := decode (s.map fun c => if c == '+' then ' ' else c)

end SnippetStudio.Percent
