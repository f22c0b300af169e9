import SnippetStudio.Json.Plain
import SnippetStudio.Json.Reader
import SnippetStudio.Text.Slice

/-!
# Bodies of answers

A body that is JSON counts as its value, any other as its text, cut off after a number of characters.  JSON
that is too deep counts as neither.  Either way it can be written again (`Body.fits`).
-/

namespace SnippetStudio

/-- what a page has, as a value that can be written -/
structure Scrape.Body where
  value : Json
  fits : value.fits = true := by rfl

/-- a body as a text: a text as it is, any other value as JSON -/
def Scrape.Body.html (b : Scrape.Body) : String :=
  match b.value with
  | .str s => s
  | v => Json.spell v

theorem Scrape.Body.text_value (b : Scrape.Body) : Json.text b.value = .ok (Json.spell b.value) := by
  rw [Json.text, if_pos b.fits]

/-- what stands at the end of a text that was cut off -/
def truncationMarker : String := "... [Content truncated due to size]"

def Json.Container.label : Json.Container → String
  | .array => "array"
  | .object => "object"

def tooDeep (c : Json.Container) : Fault :=
  ⟨.unknown "RecursionError",
    "maximum recursion depth exceeded while decoding a JSON " ++ c.label ++ " from a unicode string"⟩

/-- the body of a text, where JSON is read to some depth -/
def bodyOf (depth : Nat) (text : String) (maxChars : Int) : Except Fault Scrape.Body :=
  match h : Json.read depth text.toList with
  | .ok v => .ok ⟨v, Json.fits_read h⟩
  | .error (.tooDeep c) => .error (tooDeep c)
  | .error _ =>
    if maxChars < text.length then .ok { value := .str (firstChars maxChars text ++ truncationMarker) }
    else .ok { value := .str text }

end SnippetStudio
