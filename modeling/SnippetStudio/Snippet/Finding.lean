import SnippetStudio.Snippet.Wrapping

/-!
# Findings of the linter

A finding stands at a line, the first being 1; line 0 stands for the snippet as a whole.  Problems
make a snippet invalid, notices do not.  Each has a label, a message, and a problem a hint how to
mend it.
-/

namespace SnippetStudio.Snippet

inductive Problem where
  | empty
  | importStatement
  | exportStatement
  | misspelledEntry
  | missingEntry
  | classAttribute
  | labelFor
  | styleString
  | htmlComment
  | truncation (shown : String)
  | duplicateBlock
deriving Repr, DecidableEq

inductive Notice where
  | unknownComponent (name : String) (isIcon : Bool)
  | missingKey
  | useClient
deriving Repr, DecidableEq

structure Finding (κ : Type) where
  line : Nat
  cause : κ
deriving Repr, DecidableEq

namespace Problem

def label : Problem → String
  | empty => "empty_snippet"
  | importStatement => "import_statement"
  | exportStatement => "export_statement"
  | misspelledEntry => "misspelled_preview"
  | missingEntry => "missing_preview"
  | classAttribute => "class_not_classname"
  | labelFor => "for_not_htmlfor"
  | styleString => "style_string"
  | htmlComment => "html_comment"
  | truncation _ => "truncation_comment"
  | duplicateBlock => "duplicate_block"

def message : Problem → String
  | empty => "Snippet is empty"
  | importStatement => "Imports are not supported; components, hooks and icons are already in scope"
  | exportStatement => "Exports are not supported in a preview snippet"
  | misspelledEntry =>
    "Found a component named `Prevew`; the entry point must be `" ++ entryPoint ++ "`"
  | missingEntry => "No `" ++ entryPoint ++ "` component defined"
  | classAttribute => "Use className= instead of class= in JSX"
  | labelFor => "Use htmlFor= instead of for= on labels"
  | styleString => "style=\"...\" should be style=\x7b\x7b...\x7d\x7d in JSX"
  | htmlComment => "HTML comment <!-- --> found, use \x7b/* */\x7d in JSX"
  | truncation shown => "Truncation placeholder found: " ++ shown
  | duplicateBlock => "4+ consecutive identical lines repeated, likely a copy-paste error"

def hint : Problem → String
  | empty => "Define `function " ++ entryPoint ++ "() \x7b ... \x7d`"
  | importStatement => "Remove the import line"
  | exportStatement =>
    "Drop `export` / `export default` and keep `function " ++ entryPoint ++ "()`"
  | misspelledEntry => "Rename `Prevew` to `" ++ entryPoint ++ "`"
  | missingEntry => "Define `function " ++ entryPoint ++ "() \x7b return (...); \x7d`"
  | classAttribute => "Replace class= with className="
  | labelFor => "Replace for= with htmlFor="
  | styleString =>
    "Convert the style string to an object: style=\x7b\x7b property: 'value' \x7d\x7d"
  | htmlComment => "Replace <!-- comment --> with \x7b/* comment */\x7d"
  | truncation _ => "Replace with the actual content"
  | duplicateBlock => "Remove the duplicate block"

end Problem

namespace Notice

def label : Notice → String
  | unknownComponent .. => "unknown_component"
  | missingKey => "missing_key_prop"
  | useClient => "use_client"

def message : Notice → String
  | unknownComponent name isIcon =>
    "<" ++ name ++ "> is not an available component" ++
      (if isIcon then " (icons are reached through LucideIcons)" else "")
  | missingKey => ".map() call may be missing key prop on returned elements"
  | useClient => "\"use client\" has no effect in the preview"

end Notice

/-- the outcome of a check -/
structure Validation where
  errors : List (Finding Problem)
  warnings : List (Finding Notice)
  /-- the number of lines of the snippet -/
  lines : Nat
  /-- components of the set that occur as tags, sorted -/
  used : List String
deriving Repr, DecidableEq

def Validation.isValid (v : Validation) : Bool := v.errors.isEmpty

end SnippetStudio.Snippet
