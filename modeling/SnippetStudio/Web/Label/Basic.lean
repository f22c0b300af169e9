import SnippetStudio.Text.Lines
import SnippetStudio.Web.Label.Direction
import SnippetStudio.Web.Label.Letters
import SnippetStudio.Web.Punycode

/-!
# Labels

A label is one of the words that the name of a host is made of.  Some characters may stand in it only where
their neighbours allow it (`fitsContext`).  A label that is not in ASCII is sent in an encoded form
(`Label.ascii?`).
-/

namespace SnippetStudio.Label

open Text (inRanges)

/-! ## Characters that need their neighbours -/

def isGreek (c : Char) : Bool := inRanges [(0x370, 0x3E1), (0x3F0, 0x3FF), (0x1F00, 0x1FFE)] c.toNat

def isHebrew (c : Char) : Bool := inRanges [(0x591, 0x5F4), (0xFB1D, 0xFB4F)] c.toNat

/-- the syllables and the characters of Japanese -/
def isJapanese (c : Char) : Bool :=
  inRanges [(0x3005, 0x3005), (0x3007, 0x3007), (0x3021, 0x3029), (0x3038, 0x303B), (0x3041, 0x3096),
    (0x309D, 0x309F), (0x30A1, 0x30FA), (0x30FD, 0x30FF), (0x31F0, 0x31FF), (0x3400, 0x4DBF),
    (0x4E00, 0x9FFF), (0xF900, 0xFAD9), (0x20000, 0x3134A)] c.toNat

def isArabicDigit (c : Char) : Bool := inRanges [(0x660, 0x669)] c.toNat

def isPersianDigit (c : Char) : Bool := inRanges [(0x6F0, 0x6F9)] c.toNat

/-- letters of Arabic that are not joined with the next one -/
def standsAlone (c : Char) : Bool :=
  inRanges [(0x621, 0x625), (0x627, 0x627), (0x629, 0x629), (0x62F, 0x632), (0x648, 0x648),
    (0x671, 0x677), (0x688, 0x699), (0x6C0, 0x6C0), (0x6C3, 0x6CB), (0x6CD, 0x6CD), (0x6CF, 0x6CF),
    (0x6D2, 0x6D5), (0x6EE, 0x6EF)] c.toNat

def isArabicLetter (c : Char) : Bool :=
  inRanges [(0x620, 0x64A), (0x66E, 0x66F), (0x671, 0x6D3), (0x6D5, 0x6D5), (0x6EE, 0x6EF),
    (0x6FA, 0x6FC)] c.toNat

/-- letters of Arabic that are joined with neither neighbour -/
def joinsNothing (c : Char) : Bool := inRanges [(0x621, 0x621), (0x674, 0x674)] c.toNat

/-- the letters on the two sides would be joined -/
def breaksJoin (left right : List Char) : Bool :=
  ((left.dropWhile isMark).head?.any fun c => isArabicLetter c && !standsAlone c) &&
    (right.dropWhile isMark).head?.any fun c => isArabicLetter c && !joinsNothing c

/-- a character fits its neighbours in a label; `left` is what stands before it, the nearest first -/
def fitsContext (label left : List Char) (c : Char) (right : List Char) : Bool :=
  if c == '\u00b7' then left.head? == some 'l' && right.head? == some 'l'
  else if c == '\u0375' then right.head?.any isGreek
  else if c == '\u05f3' || c == '\u05f4' then left.head?.any isHebrew
  else if c == '\u30fb' then label.any isJapanese
  else if isArabicDigit c then !label.any isPersianDigit
  else if isPersianDigit c then !label.any isArabicDigit
  else if c == '\u200c' then left.head?.any isVirama || breaksJoin left right
  else if c == '\u200d' then left.head?.any isVirama
  else false

/-- every character is one of labels, or fits its neighbours -/
def fits (label : List Char) : List Char → List Char → Bool
  | _, [] => true
  | left, c :: right => (isLabelChar c || fitsContext label left c right) && fits label (c :: left) right

/-! ## Labels -/

/-- some character and the mark behind it have a single character -/
def hasFusion : List Char → Bool
  | a :: b :: s => fuses a b || hasFusion (b :: s)
  | _ => false

/-- hyphens stand neither at an end nor at the third and fourth place -/
def hasHyphensInPlace (label : List Char) : Bool :=
  label.head? != some '-' && label.getLast? != some '-' && (label.drop 2).take 2 != ['-', '-']

def isValid (label : List Char) : Bool :=
  !label.isEmpty && !hasFusion label && hasHyphensInPlace label && !label.head?.any isMark &&
    fits label [] label && isOrdered label

/-- what stands in front of an encoded label -/
def mark : List Char := "xn--".toList

/-- a label in ASCII; an encoded one stands for a label that is valid -/
def isValidAscii (label : List Char) : Bool :=
  if label.take 4 = mark then
    let coded := label.drop 4
    !coded.isEmpty && coded.getLast? != some '-' && (Punycode.decode coded).any isValid
  else isValid label

/-- the most characters of a label that is sent -/
def lengthLimit : Nat := 63

/-- a label as it is sent -/
def ascii? (label : List Char) : Option (List Char) :=
  let coded := if label.all Punycode.isBasic then label else mark ++ Punycode.encode label
  let valid := if label.all Punycode.isBasic then isValidAscii label else isValid label
  if valid && coded.length ≤ lengthLimit then some coded else none

end SnippetStudio.Label

namespace SnippetStudio.Hostname

/-- the full stops between labels -/
def isStop (c : Char) : Bool := ".\u3002\uff0e\uff61".toList.contains c

/-- the most characters of a name that is sent, a stop at its end not counted -/
def lengthLimit : Nat := 253

/-- a name of small letters as it is sent -/
def ascii? (name : List Char) : Option (List Char) := do
  let labels := Text.cut '.' (name.map fun c => if isStop c then '.' else c)
  let ends := labels.getLast? == some []
  let coded ← (if ends then labels.dropLast else labels).mapM Label.ascii?
  let text := Text.glue ['.'] coded
  if lengthLimit < text.length then none else some (if ends then text ++ ['.'] else text)

end SnippetStudio.Hostname
