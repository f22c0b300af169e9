import SnippetStudio.Json.Real

/-!
# Writing JSON

A value is written on one line in ASCII (`write`, `spell`): a comma and a space between two items, a colon
and a space behind a key.  Containers may stand one inside the other to any depth.  In a string the quote, the
backslash and the control characters are escaped, and so is every character from U+007F on, by its 16-bit units
(`escape`).

Here a whole number has any number of digits; that it must not have too many is said in `Json.text`.
-/

namespace SnippetStudio.Json

def hexDigit (n : Nat) : Char :=
  if n < 10 then Char.ofNat (0x30 + n) else Char.ofNat (0x57 + n)

/-- four hexadecimal digits -/
def hex4 (n : Nat) : List Char :=
  [hexDigit (n / 4096 % 16), hexDigit (n / 256 % 16), hexDigit (n / 16 % 16), hexDigit (n % 16)]

def unit (n : Nat) : List Char := '\\' :: 'u' :: hex4 n

/-- a character inside a string -/
def escape (c : Char) : List Char :=
  if c = '"' then ['\\', '"']
  else if c = '\\' then ['\\', '\\']
  else if c = '\n' then ['\\', 'n']
  else if c = '\r' then ['\\', 'r']
  else if c = '\t' then ['\\', 't']
  else if c = '\x08' then ['\\', 'b']
  else if c = '\x0c' then ['\\', 'f']
  else
    let n := c.toNat
    if 0x20 ≤ n ∧ n < 0x7F then [c]
    else if n < 0x10000 then unit n
    else unit (0xD800 + (n - 0x10000) / 0x400) ++ unit (0xDC00 + (n - 0x10000) % 0x400)

def quote (s : List Char) : List Char := '"' :: (s.flatMap escape ++ ['"'])

variable {ρ : Type}

mutual

def write (r : Reals ρ) : Tree ρ → List Char
  | .null => "null".toList
  | .bool true => "true".toList
  | .bool false => "false".toList
  | .int n => (toString n).toList
  | .real x => r.write x
  | .str s => quote s.toList
  | .arr [] => ['[', ']']
  | .arr (x :: xs) => '[' :: (write r x ++ writeItems r xs)
  | .obj [] => ['{', '}']
  | .obj (f :: fs) => '{' :: (quote f.1.toList ++ ':' :: ' ' :: (write r f.2 ++ writeFields r fs))

def writeItems (r : Reals ρ) : List (Tree ρ) → List Char
  | [] => [']']
  | x :: xs => ',' :: ' ' :: (write r x ++ writeItems r xs)

def writeFields (r : Reals ρ) : List (String × Tree ρ) → List Char
  | [] => ['}']
  | f :: fs => ',' :: ' ' :: (quote f.1.toList ++ ':' :: ' ' :: (write r f.2 ++ writeFields r fs))

end

def spell (v : Json) : String := String.ofList (write doubles v)

end SnippetStudio.Json
