import SnippetStudio.Json.Writer
import SnippetStudio.Page.Script
import SnippetStudio.Settings

/-!
# The document of the page

The page loads its libraries from the addresses in the settings, runs the script, and takes the two
class-name libraries as modules.  Addresses are data: in an attribute they are written with character
references (`attributeText`), in the module script as JSON strings.
-/

namespace SnippetStudio.Page

/-- a character inside a quoted attribute -/
def reference (c : Char) : List Char :=
  if c = '&' then "&amp;".toList
  else if c = '<' then "&lt;".toList
  else if c = '>' then "&gt;".toList
  else if c = '"' then "&quot;".toList
  else if c = '\'' then "&#x27;".toList
  else [c]

def attributeText (s : String) : String := String.ofList (s.toList.flatMap reference)

/-- a string literal of the module script -/
def literalText (s : String) : String := String.ofList (Json.quote s.toList)

/-- the document around a script -/
def documentWith (script : String) (s : Settings) : String :=
  "\n".intercalate
    ["<!DOCTYPE html>",
     "<html lang=\"en\">",
     "<head>",
     "<meta charset=\"UTF-8\">",
     "<meta name=\"viewport\" content=\"width=device-width, initial-scale=1\">",
     "<title>Preview</title>",
     "<script src=\"" ++ attributeText s.tailwindUrl ++ "\"></script>",
     "<script crossorigin src=\"" ++ attributeText s.reactUrl ++ "\"></script>",
     "<script crossorigin src=\"" ++ attributeText s.reactDomUrl ++ "\"></script>",
     "<!-- lucide-react's UMD build looks React up as `react` -->",
     "<script>window.react = window.React;</script>",
     "<script crossorigin src=\"" ++ attributeText s.lucideUrl ++ "\"></script>",
     "</head>",
     "<body class=\"bg-white\">",
     "<div class=\"p-8\">",
     "<div id=\"" ++ mountId ++ "\" class=\"min-h-[50vh]\"></div>",
     "</div>",
     "<script>",
     script,
     "</script>",
     "<script type=\"module\">",
     "import \x7b clsx \x7d from " ++ literalText s.clsxUrl ++ ";",
     "import \x7b twMerge \x7d from " ++ literalText s.tailwindMergeUrl ++ ";",
     "window.__preview.useClassNames(clsx, twMerge);",
     "</script>",
     "</body>",
     "</html>"]

def document (s : Settings) : String := documentWith script s

end SnippetStudio.Page
