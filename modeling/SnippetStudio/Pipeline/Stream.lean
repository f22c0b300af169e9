import SnippetStudio.Json.Plain

/-!
# Events on the wire

An event is one line of JSON behind `data: `, followed by a blank line.  The field `type` comes first;
data with a field of that name overrides it in place.  Data with a whole number that has too many digits give no event.
-/

namespace SnippetStudio

def eventFields (type : String) (data : List (String × Json)) : List (String × Json) :=
  Json.merge [("type", .str type)] data

/-- a line as an event -/
def eventOf (line : String) : String := "data: " ++ line ++ "\n\n"

/-- the text of an event -/
def eventText (type : String) (data : List (String × Json)) : Except Fault String := do
  return eventOf (← Json.text (.obj (eventFields type data)))

end SnippetStudio
