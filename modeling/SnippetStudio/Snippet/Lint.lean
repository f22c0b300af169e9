import SnippetStudio.Snippet.Finding
import SnippetStudio.Snippet.Markup
import SnippetStudio.Snippet.Names

/-!
# The linter

`lint` looks for the usual slips of written or generated snippets before they reach the compiler.
A blank snippet has one problem and nothing else is looked at.  Otherwise the problems come in
this order: statements of modules, the entry component, attributes and comments line by line,
placeholders for left-out code, blocks of four lines that follow on themselves; then the notices:
unknown components, list items without keys, the client directive.

Checks of attributes and tags leave comment lines out.
-/

namespace SnippetStudio.Snippet

open Text

abbrev Line := List Char

/-- the lines with their numbers, from 1 -/
def numbered (ls : List Line) : List (Nat × Line) := (ls.zipIdx 1).map fun p => (p.2, p.1)

/-- one finding for each line that a test accepts -/
def findLines {κ : Type} (test : Line → Bool) (cause : Line → κ) (ls : List Line) :
    List (Finding κ) :=
  (numbered ls).filterMap fun p => if test p.2 then some ⟨p.1, cause p.2⟩ else none

def moduleProblem? (line : Line) : Option Problem :=
  if isImport line then some .importStatement
  else if isExport line then some .exportStatement
  else none

def checkModules (ls : List Line) : List (Finding Problem) :=
  (numbered ls).filterMap fun p => (moduleProblem? p.2).map fun c => ⟨p.1, c⟩

def entryName : List Char := entryPoint.toList

def lookalike : List Char := "Prevew".toList

def checkEntry (code : List Char) : List (Finding Problem) :=
  if definesEntry entryName code then []
  else if definesLookalike lookalike code then [⟨0, .misspelledEntry⟩]
  else [⟨0, .missingEntry⟩]

/-- the problems of one line's attributes and comments -/
def attributeProblems (line : Line) : List Problem :=
  if isComment line then []
  else
    (if showsClass line then [.classAttribute] else []) ++
    (if showsLabelFor line then [.labelFor] else []) ++
    (if showsStyle line then [.styleString] else []) ++
    (if showsHtmlComment line then [.htmlComment] else [])

def checkAttributes (ls : List Line) : List (Finding Problem) :=
  (numbered ls).flatMap fun p => (attributeProblems p.2).map fun c => ⟨p.1, c⟩

/-- at most eighty characters of a line, without the blanks at its ends -/
def excerpt (line : Line) : String := String.ofList ((trim line).take 80)

def checkTruncation (ls : List Line) : List (Finding Problem) :=
  findLines showsTruncation (fun l => .truncation (excerpt l)) ls

/-- four lines with text, and the same four again -/
def repeatsBlock (ls : List Line) : Bool :=
  let block := ls.take 4
  block.length == 4 && block.all (fun l => !(trim l).isEmpty) && (ls.drop 4).take 4 == block

/-- the line numbers at which a second copy begins -/
def duplicatesFrom (i : Nat) : List Line → List (Finding Problem)
  | [] => []
  | l :: ls =>
    (if repeatsBlock (l :: ls) then [⟨i + 5, .duplicateBlock⟩] else []) ++ duplicatesFrom (i + 1) ls

/-- a snippet of eight lines or less is not searched -/
def checkDuplicates (ls : List Line) : List (Finding Problem) :=
  if 8 < ls.length then duplicatesFrom 0 ls else []

/-- names in scope besides components, hooks and what the snippet declares -/
def ambient : List String := ["React", "ShadcnUI", "LucideIcons"]

/-- all names that a tag may have -/
def inScope (caps : Capabilities) (code : List Char) : List String :=
  caps.names ++ ambient ++ Scope.extras ++ caps.hooks ++ (declaredNames code).map String.ofList

/-- the capitalised tags outside comment lines, with their line numbers -/
def tagUses (ls : List Line) : List (Nat × String) :=
  (numbered ls).flatMap fun p =>
    if isComment p.2 then [] else (tags p.2).map fun t => (p.1, String.ofList t)

/-- the uses of a name that was not seen before -/
def firstUses (seen : List String) : List (Nat × String) → List (Nat × String)
  | [] => []
  | u :: us => if u.2 ∈ seen then firstUses seen us else u :: firstUses (u.2 :: seen) us

def checkTags (caps : Capabilities) (code : List Char) (ls : List Line) : List (Finding Notice) :=
  (firstUses (inScope caps code) (tagUses ls)).map fun u =>
    ⟨u.1, .unknownComponent u.2 (u.2 ∈ caps.icons)⟩

def usedComponents (caps : Capabilities) (ls : List Line) : List String :=
  sortNames (((tagUses ls).map (·.2)).filter (· ∈ caps.names)).eraseDups

/-- a call of `map`, with no key on its line nor on the ten that follow -/
def lacksKey (ls : List Line) : Bool :=
  match ls with
  | [] => false
  | l :: _ => showsMap l && !(ls.take 11).any showsKey

def keysFrom (i : Nat) : List Line → List (Finding Notice)
  | [] => []
  | l :: ls => (if lacksKey (l :: ls) then [⟨i, .missingKey⟩] else []) ++ keysFrom (i + 1) ls

def checkKeys (ls : List Line) : List (Finding Notice) := keysFrom 1 ls

def checkDirective (code : List Char) : List (Finding Notice) :=
  if showsUseClient code then [⟨1, .useClient⟩] else []

def check (caps : Capabilities) (code : List Char) : Validation :=
  let ls := lines code
  if (trim code).isEmpty then ⟨[⟨0, .empty⟩], [], ls.length, []⟩
  else
    { errors := checkModules ls ++ checkEntry code ++ checkAttributes ls ++ checkTruncation ls ++
        checkDuplicates ls
      warnings := checkTags caps code ls ++ checkKeys ls ++ checkDirective code
      lines := ls.length
      used := usedComponents caps ls }

end SnippetStudio.Snippet

namespace SnippetStudio

def lint (code : String) (caps : Capabilities) : Snippet.Validation :=
  Snippet.check caps code.toList

end SnippetStudio
