import SnippetStudio.Capability.Basic
import SnippetStudio.Snippet.Wrapping
import SnippetStudio.Text.Slice

/-!
# The prompt

What a model is asked for: the address of the page, the beginning of its markup, and the names that a
snippet finds in scope.  Fixture data that is no record has no names, and then there is no prompt.
-/

namespace SnippetStudio

/-- the prompt for a page; `htmlChars` bounds the markup that goes into it -/
def prompt (url html : String) (htmlChars : Int) (caps : Capabilities) :
    Except Fault String := do
  let data ← caps.mockData.keys
  return "You are a web developer converting a scraped website into a React component built from shadcn/ui-style components.\n\nThe website to convert is: "
    ++ url ++ "\n\nHere is the HTML content of the page:\n```html\n" ++ firstChars htmlChars html ++
    "\n```\n\nWrite a single React component that:\n1. Is declared as `function " ++ entryPoint ++
    "() \x7b ... \x7d` and returns JSX\n2. Uses only these components (already in scope, do not import them): "
    ++ ", ".intercalate caps.names ++ "\n3. May use these React hooks (already in scope): " ++
    ", ".intercalate caps.hooks ++
    "\n4. May use any lucide-react icon as `LucideIcons.Name` (for example " ++
    ", ".intercalate caps.icons ++ ")\n5. May use `cn(...classes)` to merge class names and `mockData` ("
    ++ ", ".intercalate data ++
    ") for placeholder content\n6. Recreates the main content, layout and functionality as a clean, modern page\n7. Includes the page's text content, styled with Tailwind CSS classes\n\nRules:\n- No import or export statements, no \"use client\" directive\n- Everything lives in the one snippet; helper components are fine if "
    ++ entryPoint ++
    " renders them\n- TypeScript annotations are allowed\n\nReturn ONLY the code, no explanations."

end SnippetStudio
