/-!
# The beginning of a text

`firstChars n` keeps at most `n` characters; with a negative `n` it leaves out as many at the end.
-/

namespace SnippetStudio.Text

def firstChars (n : Int) (s : List Char) : List Char :=
  if 0 ≤ n then s.take n.toNat else s.take (s.length - n.natAbs)

end SnippetStudio.Text

namespace SnippetStudio

/-- the first characters of a text -/
def firstChars (n : Int) (s : String) : String := String.ofList (Text.firstChars n s.toList)

end SnippetStudio
