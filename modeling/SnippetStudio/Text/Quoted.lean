import SnippetStudio.Text.Printable
import SnippetStudio.Json.Writer

/-!
# Quoted text

A text is shown between single quotes, or between double quotes when it holds a single quote and
no double one (`quoteMark`).  The mark and the backslash get a backslash; line feed, carriage
return and tab have a letter; any other character that is not printable is written by its code,
with two, four or eight hexadecimal digits.
-/

namespace SnippetStudio.Text

def quoteMark (s : List Char) : Char :=
  if s.contains '\'' && !s.contains '"' then '"' else '\''

open Json (hexDigit hex4) in
/-- a character that does not stand for itself, by its code -/
def codeEscape (n : Nat) : List Char :=
  if n < 0x100 then '\\' :: 'x' :: [hexDigit (n / 16), hexDigit (n % 16)]
  else if n < 0x10000 then '\\' :: 'u' :: hex4 n
  else '\\' :: 'U' :: (hex4 (n / 0x10000) ++ hex4 n)

def quotedChar (mark c : Char) : List Char :=
  if c = mark ∨ c = '\\' then ['\\', c]
  else if c = '\n' then ['\\', 'n']
  else if c = '\r' then ['\\', 'r']
  else if c = '\t' then ['\\', 't']
  else if isPrintable c then [c]
  else codeEscape c.toNat

def quotedChars (s : List Char) : List Char :=
  let mark := quoteMark s
  mark :: (s.flatMap (quotedChar mark) ++ [mark])

end SnippetStudio.Text

namespace SnippetStudio

/-- a text between quotes -/
def quoted (s : String) : String := String.ofList (Text.quotedChars s.toList)

/-- a list of texts between brackets -/
def quotedList (xs : List String) : String := "[" ++ ", ".intercalate (xs.map quoted) ++ "]"

end SnippetStudio
