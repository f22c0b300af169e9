import SnippetStudio.Proofs.Json.RoundTrip
import SnippetStudio.Proofs.Page.Tokens
import SnippetStudio.Text.Lines

/-!
# Addresses in the document

The document holds six addresses from the settings: four are values of attributes, two stand as string literals in
the module script.  An attribute is safe, since its text holds no quote (`close_scriptTag`).  A literal is safe as
part of the script language, but the script's element is HTML, which knows no literals: it ends where `</script` and
a delimiter stand, wherever that is.

* `reads_head`            the lines up to the script, with the addresses as values of their attributes;
* `specifiers_moduleText` the specifiers of the module script are the two addresses;
* `run_module_iff`        the rest is read as intended just when the module script contains its own text;
* `tags_of_contained`     then the document has the tags that it always has;
* `addresses_stay_data`   **all of it**.
-/

namespace SnippetStudio.Page

open State (Reads)

/-! ## The lines of the document -/

/-- the lines up to the script, with the tokens that they give -/
def head (s : Settings) : List (String × List Token) :=
  [("<!DOCTYPE html>", []),
   ("<html lang=\"en\">", [.opens "html" [("lang", "en")]]),
   ("<head>", [.opens "head" []]),
   ("<meta charset=\"UTF-8\">", [.opens "meta" [("charset", "UTF-8")]]),
   ("<meta name=\"viewport\" content=\"width=device-width, initial-scale=1\">",
     [.opens "meta" [("name", "viewport"), ("content", "width=device-width, initial-scale=1")]]),
   ("<title>Preview</title>", [.opens "title" [], .holds "Preview", .closes "title"]),
   ("<script src=\"" ++ attributeText s.tailwindUrl ++ "\"></script>",
     [.opens "script" [("src", s.tailwindUrl)], .holds "", .closes "script"]),
   ("<script crossorigin src=\"" ++ attributeText s.reactUrl ++ "\"></script>",
     [.opens "script" [("crossorigin", ""), ("src", s.reactUrl)], .holds "", .closes "script"]),
   ("<script crossorigin src=\"" ++ attributeText s.reactDomUrl ++ "\"></script>",
     [.opens "script" [("crossorigin", ""), ("src", s.reactDomUrl)], .holds "", .closes "script"]),
   ("<!-- lucide-react's UMD build looks React up as `react` -->", []),
   ("<script>window.react = window.React;</script>",
     [.opens "script" [], .holds "window.react = window.React;", .closes "script"]),
   ("<script crossorigin src=\"" ++ attributeText s.lucideUrl ++ "\"></script>",
     [.opens "script" [("crossorigin", ""), ("src", s.lucideUrl)], .holds "", .closes "script"]),
   ("</head>", [.closes "head"]),
   ("<body class=\"bg-white\">", [.opens "body" [("class", "bg-white")]]),
   ("<div class=\"p-8\">", [.opens "div" [("class", "p-8")]]),
   ("<div id=\"" ++ mountId ++ "\" class=\"min-h-[50vh]\"></div>",
     [.opens "div" [("id", mountId), ("class", "min-h-[50vh]")], .closes "div"]),
   ("</div>", [.closes "div"])]

/-- the lines of the module script -/
def moduleLines (s : Settings) : List String :=
  ["import \x7b clsx \x7d from " ++ literalText s.clsxUrl ++ ";",
   "import \x7b twMerge \x7d from " ++ literalText s.tailwindMergeUrl ++ ";",
   "window.__preview.useClassNames(clsx, twMerge);"]

/-- lines, each with its end -/
def ended (ls : List String) : List Char := ls.flatMap fun l => l.toList ++ ['\n']

theorem ended_append (ls ls' : List String) : ended (ls ++ ls') = ended ls ++ ended ls' := List.flatMap_append

theorem toList_intercalate_concat (ls : List String) (l : String) :
    ("\n".intercalate (ls ++ [l])).toList = ended ls ++ l.toList := by
  have glued (ls : List (List Char)) (l : List Char) :
      ['\n'].intercalate (ls ++ [l]) = ls.flatMap (· ++ ['\n']) ++ l := by
    induction ls with
    | nil => simp [List.intercalate]
    | cons first ls ih =>
      obtain ⟨second, rest, more⟩ :=
        List.exists_cons_of_ne_nil (List.append_ne_nil_of_right_ne_nil ls (List.cons_ne_nil l []))
      rw [List.cons_append, List.flatMap_cons, more, List.intercalate_cons_cons, ← more, ih]
      simp only [List.append_assoc]
  rw [String.toList_intercalate, List.map_append, List.map_singleton]
  show ['\n'].intercalate _ = _
  rw [glued, ended, List.flatMap_map]

/-- the text in front of the module script -/
def front (s : Settings) : List Char :=
  ended ((head s).map (·.1)) ++ (ended ["<script>", script, "</script>"] ++ ended ["<script type=\"module\">"])

theorem toList_document (s : Settings) : (document s).toList =
    front s ++ (ended (moduleLines s) ++ (ended ["</script>", "</body>"] ++ "</html>".toList)) := by
  have lines : document s = "\n".intercalate (((head s).map (·.1) ++ ["<script>", script, "</script>"] ++
      ["<script type=\"module\">"] ++ moduleLines s ++ ["</script>", "</body>"]) ++ ["</html>"]) := rfl
  rw [lines, toList_intercalate_concat]
  simp only [ended_append, front, List.append_assoc]

/-! ## What the lines give -/

variable {state state' : State} {given : List Token}

theorem reads_line {l : List Char} (h : state.run (l ++ ['\n']) = (state', given)) :
    Reads state ((String.ofList l).toList ++ ['\n']) state' given := by
  rw [String.toList_ofList]
  exact h

theorem reads_end (seen : List Char) : Reads (.raw scriptName .plain seen) ("</script>".toList ++ ['\n']) .data
    [.holds (Tag.text seen), .closes "script"] := by
  apply reads_line
  with_unfolding_all rfl

theorem reads_src {start url : String} {t : Tag} {attributes : List (String × String)}
    (begins : Reads .data start.toList (.quoted t ['c', 'r', 's'] '"' []) [])
    (closes : (t.add ['c', 'r', 's'] (attributeText url).toList.reverse).close =
      (.raw scriptName .plain [], [.opens "script" attributes])) :
    Reads .data ((start ++ attributeText url ++ "\"></script>").toList ++ ['\n']) .data
      [.opens "script" attributes, .holds "", .closes "script"] := by
  have behind : "\"></script>".toList = '"' :: '>' :: "</script>".toList := by decide
  have value : Reads (.quoted t ['c', 'r', 's'] '"' []) ((attributeText url).toList ++ ['"'])
      (.valued (t.add ['c', 'r', 's'] (attributeText url).toList.reverse)) [] := by
    rw [Reads, State.run_quoted _ _ _ (not_mem_attributeText url), List.append_nil]
    rfl
  have tag : Reads (.valued (t.add ['c', 'r', 's'] (attributeText url).toList.reverse)) ['>']
      (.raw scriptName .plain []) [.opens "script" attributes] := by
    show ((t.add _ _).close.1, (t.add _ _).close.2 ++ []) = _
    rw [closes]
    rfl
  have whole := begins.append (value.append (tag.append (reads_end [])))
  simpa [behind, Tag.text] using whole

/-- the start tag of a script, up to its address -/
def scriptTag (crossorigin : Bool) : Tag :=
  { closing := false, name := scriptName.reverse,
    attributes := if crossorigin then [("crossorigin".toList.reverse, [])] else [] }

theorem close_scriptTag (crossorigin : Bool) (url : String) :
    ((scriptTag crossorigin).add ['c', 'r', 's'] (attributeText url).toList.reverse).close =
      (.raw scriptName .plain [],
        [.opens "script" ((if crossorigin then [("crossorigin", "")] else []) ++ [("src", url)])]) := by
  have raw : ['s', 'c', 'r', 'i', 'p', 't'] ∈ rawElements := List.mem_cons_self
  have empty : unescape [] = [] := rfl
  cases crossorigin <;>
    simp [scriptTag, scriptName, Tag.add, Tag.close, Tag.token, Tag.text, raw, empty, unescape_attributeText]

theorem reads_head (s : Settings) : Reads .data (ended ((head s).map (·.1))) .data ((head s).flatMap (·.2)) := by
  have src (url : String) :
      Reads .data (("<script src=\"" ++ attributeText url ++ "\"></script>").toList ++ ['\n']) .data
        [.opens "script" [("src", url)], .holds "", .closes "script"] :=
    reads_src (t := scriptTag false) (by decide +kernel) (close_scriptTag false url)
  have crossorigin (url : String) :
      Reads .data (("<script crossorigin src=\"" ++ attributeText url ++ "\"></script>").toList ++ ['\n']) .data
        [.opens "script" [("crossorigin", ""), ("src", url)], .holds "", .closes "script"] :=
    reads_src (t := scriptTag true) (by decide +kernel) (close_scriptTag true url)
  have mount : Reads .data (("<div id=\"" ++ mountId ++ "\" class=\"min-h-[50vh]\"></div>").toList ++ ['\n']) .data
      [.opens "div" [("id", mountId), ("class", "min-h-[50vh]")], .closes "div"] := by
    decide +kernel
  have line : ∀ e ∈ head s, Reads .data (e.1.toList ++ ['\n']) .data e.2 := by
    simp only [head, List.forall_mem_cons]
    refine ⟨?_, ?_, ?_, ?_, ?_, ?_, src _, crossorigin _, crossorigin _, ?_, ?_, crossorigin _, ?_, ?_, ?_, mount, ?_,
      nofun⟩
    all_goals
      apply reads_line
      decide +kernel
  have all (table : List (String × List Token))
      (line : ∀ e ∈ table, Reads .data (e.1.toList ++ ['\n']) .data e.2) :
      Reads .data (ended (table.map (·.1))) .data (table.flatMap (·.2)) := by
    induction table with
    | nil => rfl
    | cons e table ih =>
      obtain ⟨first, rest⟩ := List.forall_mem_cons.mp line
      exact first.append (ih rest)
  exact all _ line

/-! ## The script -/

theorem not_mem_ofList {c : Char} {l : List Char} (h : l.all (· != c) = true) : c ∉ (String.ofList l).toList := by
  rw [String.toList_ofList]
  intro mem
  simpa using List.all_eq_true.mp h c mem

theorem reads_script {text : String} (free : '<' ∉ text.toList) :
    Reads .data (ended ["<script>", text, "</script>"]) .data
      [.opens "script" [], .holds ("\n" ++ text ++ "\n"), .closes "script"] := by
  have opens : Reads .data ("<script>".toList ++ ['\n']) (.raw scriptName .plain ['\n']) [.opens "script" []] := by
    decide +kernel
  have goesOn : Mode.plain.after? scriptName ['\n'] (text.toList ++ ['\n']) = some .plain :=
    after?_free (by decide) (by simp [free])
  have held : Tag.text ((text.toList ++ ['\n']).reverse ++ ['\n']) = "\n" ++ text ++ "\n" := by
    rw [← String.toList_inj]
    simp [Tag.text]
  have whole := opens.append (State.Reads.append (run_raw goesOn) (reads_end _))
  rw [held] at whole
  simpa only [ended, List.flatMap_cons, List.flatMap_nil, List.append_nil, List.nil_append,
    List.singleton_append] using whole

set_option maxRecDepth 100000 in
theorem not_mem_script : '<' ∉ script.toList := by
  unfold script
  apply not_mem_ofList
  decide +kernel

/-- what stands in front of the module script -/
def opening (s : Settings) : List Token :=
  (head s).flatMap (·.2) ++
    [.opens "script" [], .holds ("\n" ++ script ++ "\n"), .closes "script", .opens "script" [("type", "module")]]

theorem reads_front (s : Settings) : Reads .data (front s) (.raw scriptName .plain ['\n']) (opening s) := by
  have opens : Reads .data (ended ["<script type=\"module\">"]) (.raw scriptName .plain ['\n'])
      [.opens "script" [("type", "module")]] := by
    rw [ended, List.flatMap_singleton]
    apply reads_line
    decide +kernel
  have whole := (reads_head s).append ((reads_script not_mem_script).append opens)
  exact whole

/-! ## The module script -/

/-- the text of the module script -/
def moduleText (s : Settings) : String := String.ofList ('\n' :: ended (moduleLines s))

/-- what the module script and the rest of the document are to give -/
def closing (s : Settings) : List Token := [.holds (moduleText s), .closes "script", .closes "body", .closes "html"]

/-- the text behind the module script -/
def back : List Char := ended ["</script>", "</body>"] ++ "</html>".toList

theorem back_eq :
    back = '<' :: '/' :: 's' :: 'c' :: 'r' :: 'i' :: 'p' :: 't' :: '>' :: "\n</body>\n</html>".toList := by
  decide +kernel

theorem run_back {mode : Mode} (ends : mode ≠ .nested) (seen : List Char) :
    Reads (.raw scriptName mode seen) back .data
      [.holds (Tag.text seen), .closes "script", .closes "body", .closes "html"] := by
  rw [back_eq]
  cases mode with
  | nested => exact absurd rfl ends
  | plain | comment => with_unfolding_all rfl

/-- the end tag of a nested script does not end the element, and no other follows -/
theorem run_back_nested (seen : List Char) : ((State.raw scriptName .nested seen).run back).2 = [] := by
  rw [back_eq]
  with_unfolding_all rfl

/-- behind its start tag the module script is read as intended just when it contains its text -/
theorem run_module_iff (s : Settings) :
    ((State.raw scriptName .plain ['\n']).run (ended (moduleLines s) ++ back)).2 = closing s ↔
      Contained (moduleText s) := by
  rw [Contained, moduleText, String.toList_ofList, after?_feed]
  cases after : Mode.plain.after? scriptName ['\n'] (ended (moduleLines s)) with
  | none =>
    obtain ⟨part, more, given, less⟩ := run_leaving after back
    refine ⟨fun same => ?_, fun ⟨_, same, _⟩ => nomatch same⟩
    rw [given, closing] at same
    have held : part = '\n' :: ended (moduleLines s) :=
      String.ofList_injective (Token.holds.inj (List.cons.inj same).1)
    rw [held, List.length_cons, List.length_singleton] at less
    omega
  | some mode =>
    rw [State.run_append, run_raw after, List.nil_append]
    by_cases nested : mode = .nested
    · rw [nested, run_back_nested]
      exact ⟨nofun, fun ⟨_, same, other⟩ => (other (Option.some.inj same).symm).elim⟩
    · have held : Tag.text ((ended (moduleLines s)).reverse ++ ['\n']) = moduleText s := by
        simp [Tag.text, moduleText]
      rw [run_back nested, held]
      exact iff_of_true rfl ⟨mode, rfl, nested⟩

theorem tokens_document (s : Settings) : tokens (document s) =
    opening s ++ ((State.raw scriptName .plain ['\n']).run (ended (moduleLines s) ++ back)).2 := by
  rw [tokens, toList_document, State.run_append, reads_front s]
  rfl

/-! ## Specifiers -/

/-- the specifier of an import: a string literal, as JSON writes it -/
def specifier? (line : List Char) : Option String :=
  if "import ".toList.isPrefixOf line then
    match line.dropWhile (· != '"') with
    | [] => none
    | _ :: rest =>
      match Json.string rest rest.length rest with
      | .ok (text, [';']) => some (String.ofList text)
      | _ => none
  else none

def specifiers (text : String) : List String := (Text.lines text.toList).filterMap specifier?

theorem specifier?_import {start : String} (begins : "import ".toList.isPrefixOf start.toList = true)
    (free : '"' ∉ start.toList) (url : String) :
    specifier? (start ++ literalText url ++ ";").toList = some url := by
  have line : (start ++ literalText url ++ ";").toList =
      start.toList ++ '"' :: (url.toList.flatMap Json.escape ++ '"' :: [';']) := by
    simp [literalText, Json.quote]
  have import_ : "import ".toList.isPrefixOf (start ++ literalText url ++ ";").toList = true := by
    obtain ⟨rest, more⟩ := List.isPrefixOf_iff_prefix.mp begins
    rw [line, ← more, List.isPrefixOf_iff_prefix, List.append_assoc]
    exact List.prefix_append _ _
  have quote : (start ++ literalText url ++ ";").toList.dropWhile (· != '"') =
      '"' :: (url.toList.flatMap Json.escape ++ '"' :: [';']) := by
    rw [line, List.dropWhile_append_of_pos, List.dropWhile_cons_of_neg (by simp)]
    intro c mem
    simpa using fun e : c = '"' => free (e ▸ mem)
  rw [specifier?, if_pos import_, quote]
  simp only [Json.string_of_quote, String.ofList_toList]

theorem lines_ended {ls : List String} (free : ∀ l ∈ ls, '\n' ∉ l.toList) :
    Text.lines (ended ls) = ls.map String.toList ++ [[]] := by
  induction ls with
  | nil => rfl
  | cons l ls ih =>
    obtain ⟨first, rest⟩ := List.forall_mem_cons.mp free
    have split : ended (l :: ls) = l.toList ++ '\n' :: ended ls := by simp [ended]
    rw [split, Text.lines, Text.cut_append, Text.cut_of_not_mem first]
    exact congrArg (l.toList :: ·) (ih rest)

theorem feed_not_mem_literalText (url : String) : '\n' ∉ (literalText url).toList := by
  rw [literalText, String.toList_ofList]
  exact fun mem => absurd (Json.isPlain_quote url.toList _ mem).1 (by decide)

theorem specifiers_moduleText (s : Settings) : specifiers (moduleText s) = [s.clsxUrl, s.tailwindMergeUrl] := by
  have free : ∀ l ∈ moduleLines s, '\n' ∉ l.toList := by
    have start : '\n' ∉ "import \x7b clsx \x7d from ".toList ∧ '\n' ∉ "import \x7b twMerge \x7d from ".toList ∧
        '\n' ∉ ";".toList ∧ '\n' ∉ "window.__preview.useClassNames(clsx, twMerge);".toList := by
      simp
    simp only [moduleLines, List.forall_mem_cons, String.toList_append, List.mem_append, feed_not_mem_literalText,
      start, or_self, not_false_eq_true, true_and]
    exact nofun
  have lines : Text.lines (moduleText s).toList = [] :: ((moduleLines s).map String.toList ++ [[]]) := by
    rw [← lines_ended free, moduleText, String.toList_ofList, Text.lines, Text.cut_cons_self, Text.lines]
  have call : specifier? "window.__preview.useClassNames(clsx, twMerge);".toList = none := by decide +kernel
  have clsx := @specifier?_import "import \x7b clsx \x7d from " (by decide +kernel) (by decide +kernel) s.clsxUrl
  have twMerge :=
    @specifier?_import "import \x7b twMerge \x7d from " (by decide +kernel) (by decide +kernel) s.tailwindMergeUrl
  have blank : specifier? [] = none := by decide
  rw [specifiers, lines]
  simp only [moduleLines, List.map_cons, List.map_nil, List.cons_append, List.nil_append, List.filterMap_cons, blank,
    clsx, twMerge, call, List.filterMap_nil]

/-! ## The document -/

theorem document_eq (s : Settings) : ∃ before, document s =
    before ++ "<script type=\"module\">" ++ moduleText s ++ "</script>\n</body>\n</html>" := by
  refine ⟨String.ofList (ended ((head s).map (·.1)) ++ ended ["<script>", script, "</script>"]), ?_⟩
  have ends : back = "</script>\n</body>\n</html>".toList := by decide +kernel
  rw [← String.toList_inj, toList_document, ← back, front]
  simp only [String.toList_append, String.toList_ofList, moduleText, ← ends, ended, List.flatMap_singleton,
    List.append_assoc, List.cons_append, List.nil_append]

/-! ### Addresses without `<` -/

theorem eq_open_of_mem_escape {c : Char} (mem : '<' ∈ Json.escape c) : c = '<' := by
  have digit (k : Nat) : Json.hexDigit (k % 16) ≠ '<' := by
    have all : ∀ k : Fin 16, Json.hexDigit k ≠ '<' := by decide
    exact all ⟨k % 16, Nat.mod_lt k (by decide)⟩
  have unit (n : Nat) : '<' ∉ Json.unit n := by
    simp only [Json.unit, Json.hex4, List.mem_cons, List.not_mem_nil, or_false, (digit _).symm]
    decide
  rcases Json.escape_cases c with ⟨l, named, spelled⟩ | ⟨spelled, -⟩ | ⟨spelled, -⟩ | ⟨spelled, -⟩
  · rw [spelled] at mem
    have all : ∀ l ∈ ['"', '\\', '/', 'b', 'f', 'n', 'r', 't'], '<' ∉ ['\\', l] := by simp
    exact absurd mem (all l (Json.mem_letters named))
  · rw [spelled] at mem
    exact (List.mem_singleton.mp mem).symm
  · rw [spelled] at mem
    exact absurd mem (unit _)
  · rw [spelled] at mem
    exact absurd mem (by simp [unit])

theorem not_mem_literalText {url : String} (free : '<' ∉ url.toList) : '<' ∉ (literalText url).toList := by
  have inside : '<' ∉ url.toList.flatMap Json.escape := fun mem => by
    obtain ⟨c, here, written⟩ := List.mem_flatMap.mp mem
    exact free (eq_open_of_mem_escape written ▸ here)
  simp [literalText, Json.quote, inside]

/-- addresses without `<` cannot end the module script -/
theorem contained_moduleText {s : Settings} (clsx : '<' ∉ s.clsxUrl.toList)
    (merge : '<' ∉ s.tailwindMergeUrl.toList) : Contained (moduleText s) := by
  have free : '<' ∉ ended (moduleLines s) := by
    simp [ended, moduleLines, not_mem_literalText clsx, not_mem_literalText merge]
  refine ⟨.plain, ?_, nofun⟩
  rw [moduleText, String.toList_ofList, after?_feed]
  exact after?_free (by decide) free

/-- a tag with the names of its attributes -/
def Token.tag? : Token → Option (String × List String)
  | opens name attributes => some (name, attributes.map (·.1))
  | closes name => some ("/" ++ name, [])
  | holds _ => none

/-- where the module script contains its text, the document has the tags that it always has -/
theorem tags_of_contained {s : Settings} (contained : Contained (moduleText s)) :
    (tokens (document s)).filterMap Token.tag? = (tokens (document {})).filterMap Token.tag? := by
  have given (s : Settings) (contained : Contained (moduleText s)) : tokens (document s) = opening s ++ closing s := by
    rw [tokens_document, (run_module_iff s).mpr contained]
  rw [given s contained, given {} (contained_moduleText (by decide) (by decide))]
  simp [opening, head, closing, Token.tag?, List.filterMap_cons]

/-- **Addresses stay data in the document, up to the end of the module script.**  Every address of an attribute is
the value of one `src`, and the addresses of the module script are the specifiers that stand there.  What follows is
read as intended if, and only if, the module script contains its own text; addresses without `<` see to that.  Then
the document has the tags that it always has. -/
theorem addresses_stay_data (s : Settings) :
    (∃ before, document s =
      before ++ "<script type=\"module\">" ++ moduleText s ++ "</script>\n</body>\n</html>") ∧
    specifiers (moduleText s) = [s.clsxUrl, s.tailwindMergeUrl] ∧
    (∃ rest, tokens (document s) = opening s ++ rest) ∧
    (tokens (document s) = opening s ++ closing s ↔ Contained (moduleText s)) ∧
    ('<' ∉ s.clsxUrl.toList → '<' ∉ s.tailwindMergeUrl.toList → Contained (moduleText s)) ∧
    (Contained (moduleText s) →
      (tokens (document s)).filterMap Token.tag? = (tokens (document {})).filterMap Token.tag?) := by
  refine ⟨document_eq s, specifiers_moduleText s, ⟨_, tokens_document s⟩, ?_, contained_moduleText, tags_of_contained⟩
  rw [tokens_document, List.append_cancel_left_eq, run_module_iff]

end SnippetStudio.Page
