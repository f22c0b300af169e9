import SnippetStudio.Text.Lines
import SnippetStudio.Text.Scan

/-!
# Code between fences

A model tends to put code between fences of three backticks.  `unfenced` gives the code of the first
block that is opened and closed; without one it is the text itself with a fence at its ends taken off.
-/

namespace SnippetStudio

namespace Fence

open Text

def mark : List Char := ['`', '`', '`']

/-- a character of the word behind an opening fence -/
def isTag (c : Char) : Bool := isWord c || c == '+' || c == '-'

def isSpace (c : Char) : Bool := c == ' ' || c == '\t'

/-- the text behind an opening fence and its line -/
def opened? (s : List Char) : Option (List Char) :=
  match (after? mark s).map fun r => (r.dropWhile isTag).dropWhile isSpace with
  | some ('\n' :: r) => some r
  | _ => none

/-- the text up to a closing fence, without the line feed in front of the fence -/
def closed? : List Char → Option (List Char)
  | [] => none
  | c :: s =>
    if begins mark (c :: s) || (c == '\n' && begins mark s) then some []
    else (closed? s).map (c :: ·)

/-- the inside of the first block -/
def block? (s : List Char) : Option (List Char) :=
  (places s).findSome? fun x => (opened? x.rest).bind closed?

/-- a text that begins with a fence, from the line behind it -/
def dropOpening (s : List Char) : List Char :=
  match after? mark s with
  | none => s
  | some r => (cutOnce '\n' s).2.getD r

/-- a text without a fence at its end -/
def dropClosing (s : List Char) : List Char :=
  match after? mark s.reverse with
  | none => s
  | some r => r.reverse

def strip (s : List Char) : List Char :=
  match block? s with
  | some code => trim code
  | none => trim (dropClosing (dropOpening (trim s)))

end Fence

/-- the code in an answer of a model -/
def unfenced (s : String) : String := String.ofList (Fence.strip s.toList)

end SnippetStudio
