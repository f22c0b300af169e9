import SnippetStudio.Page.Document

/-!
# Documents, read as HTML

A document is read character by character (`State.step`), as the tokenizer of the HTML standard does: tags with their
attributes, and the texts of the elements that hold raw text.  Text between tags, comments and the document type
give no token.  A line end is read as it stands.

Raw text looks back on what it has read so far: it ends where a delimiter follows `</` and the element's name.  A
script's text has modes: in a comment (`<!--` up to `-->`) a `<script` nests, and then the next `</script` does not
end the element.

* `unescape_attributeText`  references are resolved to what was written;
* `Reads.append`            a text is read one part after the other;
* `run_quoted`              a quoted attribute value ends at its quote;
* `run_raw`, `run_leaving`  raw text goes on as long as it has a mode;
* `contained_iff`           **a script without comments ends where a delimiter follows `</script`**.
-/

namespace SnippetStudio.Page

/-! ## Character references -/

/-- the references that are written here; HTML knows more, and all begin with `&` -/
def references : List (List Char × Char) :=
  [("&amp;".toList, '&'), ("&lt;".toList, '<'), ("&gt;".toList, '>'), ("&quot;".toList, '"'), ("&#x27;".toList, '\'')]

/-- the character that a reference stands for, and how many characters the reference has behind its `&` -/
def reference? (s : List Char) : Option (Char × Nat) :=
  (references.find? fun r => r.1.isPrefixOf s).map fun r => (r.2, r.1.length - 1)

/-- a text with its references resolved, behind characters of a reference that is already resolved -/
def resolve : Nat → List Char → List Char
  | _, [] => []
  | n + 1, _ :: s => resolve n s
  | 0, c :: s =>
    match reference? (c :: s) with
    | some (d, n) => d :: resolve n s
    | none => c :: resolve 0 s

def unescape (s : List Char) : List Char := resolve 0 s

theorem reference?_of_ne {c : Char} (h : c ≠ '&') (s : List Char) : reference? (c :: s) = none := by
  have other : ('&' == c) = false := by simpa using fun e : '&' = c => h e.symm
  simp [reference?, references, List.isPrefixOf, other]

theorem resolve_of_mem {r : List Char × Char} (h : r ∈ references) (s : List Char) :
    resolve 0 (r.1 ++ s) = r.2 :: resolve 0 s := by
  simp only [references, List.mem_cons, List.not_mem_nil, or_false] at h
  rcases h with rfl | rfl | rfl | rfl | rfl <;> rfl

/-- the ways in which a character is written: by a reference, or as it stands -/
theorem reference_cases (c : Char) :
    (reference c, c) ∈ references ∨ (reference c = [c] ∧ c ≠ '&' ∧ c ≠ '"') := by
  by_cases named : (reference c, c) ∈ references
  · exact .inl named
  · have other : c ≠ '&' ∧ c ≠ '<' ∧ c ≠ '>' ∧ c ≠ '"' ∧ c ≠ '\'' := by
      refine ⟨?_, ?_, ?_, ?_, ?_⟩
      all_goals
        rintro rfl
        exact named (by decide)
    obtain ⟨ampersand, less, greater, quote, apostrophe⟩ := other
    have plain : reference c = [c] := by simp [reference, ampersand, less, greater, quote, apostrophe]
    exact .inr ⟨plain, ampersand, quote⟩

theorem resolve_reference (c : Char) (s : List Char) : resolve 0 (reference c ++ s) = c :: resolve 0 s := by
  rcases reference_cases c with named | ⟨plain, ampersand, -⟩
  · exact resolve_of_mem named s
  · rw [plain, List.singleton_append, resolve, reference?_of_ne ampersand]

theorem not_mem_reference (c : Char) : '"' ∉ reference c := by
  rcases reference_cases c with named | ⟨plain, -, quote⟩
  · have all : ∀ r ∈ references, '"' ∉ r.1 := by decide
    exact all _ named
  · simpa [plain] using fun e : '"' = c => quote e.symm

/-- an attribute's text, resolved, is what was written -/
theorem unescape_attributeText (s : String) : unescape (attributeText s).toList = s.toList := by
  have all (cs : List Char) : resolve 0 (cs.flatMap reference) = cs := by
    induction cs with
    | nil => rfl
    | cons c cs ih => rw [List.flatMap_cons, resolve_reference, ih]
  rw [attributeText, String.toList_ofList]
  exact all s.toList

theorem not_mem_attributeText (s : String) : '"' ∉ (attributeText s).toList := by
  rw [attributeText, String.toList_ofList]
  intro mem
  obtain ⟨c, -, here⟩ := List.mem_flatMap.mp mem
  exact not_mem_reference c here

/-! ## The tokenizer -/

inductive Token where
  /-- a start tag, with its attributes -/
  | opens (name : String) (attributes : List (String × String))
  /-- the text of an element that holds raw text -/
  | holds (text : String)
  | closes (name : String)
deriving Repr, DecidableEq

/-- a tag that is being read: its name from its end, its attributes from the last one -/
structure Tag where
  closing : Bool
  name : List Char
  attributes : List (List Char × List Char) := []
deriving Repr, DecidableEq

/-- how the text of a script goes on: inside a comment a script may be nested -/
inductive Mode where
  | plain
  | comment
  | nested
deriving Repr, DecidableEq

inductive State where
  | data
  /-- behind `<` -/
  | opening
  /-- behind `</` -/
  | closing
  | name (t : Tag)
  /-- before the name of an attribute -/
  | gap (t : Tag)
  | label (t : Tag) (name : List Char)
  /-- behind the name of an attribute and a blank -/
  | named (t : Tag) (name : List Char)
  /-- before the value of an attribute -/
  | equals (t : Tag) (name : List Char)
  | quoted (t : Tag) (name : List Char) (mark : Char) (value : List Char)
  | unquoted (t : Tag) (name : List Char) (value : List Char)
  /-- behind a quoted value -/
  | valued (t : Tag)
  | slash (t : Tag)
  /-- behind `<!`, and perhaps a dash -/
  | declaration (dash : Bool)
  | comment (seen : List Char)
  /-- in something that goes on to the next `>` -/
  | passing
  /-- in raw text, with what was read of it, from its end -/
  | raw (element : List Char) (mode : Mode) (seen : List Char)
deriving Repr, DecidableEq

def isGap (c : Char) : Bool := c = ' ' || c = '\n' || c = '\t' || c = '\x0c' || c = '\r'

/-- what ends the name of a tag -/
def isDelimiter (c : Char) : Bool := isGap c || c = '/' || c = '>'

/-- what was read last, in either case -/
def follows (word seen : List Char) : Bool := (seen.take word.length).map Char.toLower == word.reverse

def scriptName : List Char := ['s', 'c', 'r', 'i', 'p', 't']

/-- the elements that hold raw text -/
def rawElements : List (List Char) :=
  [scriptName, "style".toList, "title".toList, "textarea".toList, "xmp".toList, "iframe".toList,
    "noembed".toList, "noframes".toList]

/-- a character behind which the raw text of an element has ended: a delimiter that follows `</` and the name -/
def endsRaw (element seen : List Char) (c : Char) : Bool := isDelimiter c && follows ('<' :: '/' :: element) seen

/-- the mode of raw text behind one more character; there is none where the text ends -/
@[irreducible]
def Mode.next? (element seen : List Char) (c : Char) (mode : Mode) : Option Mode :=
  if endsRaw element seen c then (if mode = .nested then some .comment else none)
  else if element ≠ scriptName then some mode
  else match mode with
    | plain => some (if c = '-' && follows ['<', '!', '-'] seen then comment else plain)
    | comment =>
      if isDelimiter c && follows ('<' :: scriptName) seen then some nested
      else some (if c = '>' && follows ['-', '-'] seen then plain else comment)
    | nested => some (if c = '>' && follows ['-', '-'] seen then plain else nested)

namespace Tag

/-- an attribute of a name that the tag has already is dropped -/
def add (t : Tag) (name value : List Char) : Tag :=
  if t.attributes.any (·.1 == name) then t else { t with attributes := (name, value) :: t.attributes }

def text (s : List Char) : String := String.ofList s.reverse

def token (t : Tag) : Token :=
  if t.closing then .closes (text t.name)
  else .opens (text t.name) (t.attributes.reverse.map fun a => (text a.1, String.ofList (unescape a.2.reverse)))

/-- the end of a tag -/
def close (t : Tag) : State × List Token :=
  (if !t.closing && t.name.reverse ∈ rawElements then .raw t.name.reverse .plain [] else .data, [t.token])

end Tag

namespace State

def stepGap (t : Tag) (c : Char) : State × List Token :=
  if isGap c then (gap t, [])
  else if c = '/' then (slash t, [])
  else if c = '>' then t.close
  else (label t [c.toLower], [])

def step : State → Char → State × List Token
  | data, c => (if c = '<' then opening else data, [])
  | opening, c =>
    (if c = '!' then declaration false
      else if c = '/' then closing
      else if c.isAlpha then name { closing := false, name := [c.toLower] }
      else if c = '?' then passing
      else if c = '<' then opening
      else data, [])
  | closing, c =>
    (if c.isAlpha then name { closing := true, name := [c.toLower] } else if c = '>' then data else passing, [])
  | name t, c =>
    if isGap c then (gap t, [])
    else if c = '/' then (slash t, [])
    else if c = '>' then t.close
    else (name { t with name := c.toLower :: t.name }, [])
  | gap t, c => stepGap t c
  | label t n, c =>
    if isGap c then (named t n, [])
    else if c = '/' then (slash (t.add n []), [])
    else if c = '>' then (t.add n []).close
    else if c = '=' then (equals t n, [])
    else (label t (c.toLower :: n), [])
  | named t n, c =>
    if isGap c then (named t n, [])
    else if c = '=' then (equals t n, [])
    else stepGap (t.add n []) c
  | equals t n, c =>
    if isGap c then (equals t n, [])
    else if c = '"' || c = '\'' then (quoted t n c [], [])
    else if c = '>' then (t.add n []).close
    else (unquoted t n [c], [])
  | quoted t n mark v, c => (if c = mark then valued (t.add n v) else quoted t n mark (c :: v), [])
  | unquoted t n v, c =>
    if isGap c then (gap (t.add n v), [])
    else if c = '>' then (t.add n v).close
    else (unquoted t n (c :: v), [])
  | valued t, c => stepGap t c
  | slash t, c => if c = '>' then t.close else stepGap t c
  | declaration dash, c =>
    (if c = '-' then (if dash then comment [] else declaration true) else if c = '>' then data else passing, [])
  | comment seen, c =>
    let ends := seen = [] || seen = ['-'] || follows ['-', '-'] seen || follows ['-', '-', '!'] seen
    (if c = '>' && ends then data else comment (c :: seen), [])
  | passing, c => (if c = '>' then data else passing, [])
  | raw element mode seen, c =>
    match mode.next? element seen c with
    | some mode => (raw element mode (c :: seen), [])
    | none =>
      let t : Tag := { closing := true, name := element.reverse }
      let (state, tokens) := stepGap t c
      (state, .holds (Tag.text (seen.drop (element.length + 2))) :: tokens)

def run (state : State) : List Char → State × List Token
  | [] => (state, [])
  | c :: s =>
    let (state, first) := state.step c
    let (state, rest) := state.run s
    (state, first ++ rest)

theorem run_cons (state : State) (c : Char) (s : List Char) : state.run (c :: s) =
    (((state.step c).1.run s).1, (state.step c).2 ++ ((state.step c).1.run s).2) := rfl

theorem run_append (state : State) (s r : List Char) : state.run (s ++ r) =
    (((state.run s).1.run r).1, (state.run s).2 ++ ((state.run s).1.run r).2) := by
  induction s generalizing state with
  | nil => rfl
  | cons c s ih => rw [List.cons_append, run_cons, run_cons, ih, List.append_assoc]

end State

def tokens (document : String) : List Token := (State.data.run document.toList).2

example : tokens "<!DOCTYPE html><p id=a title='b &amp; c'>x<br/></p><!-- <i> --><script async>1<2</script >" =
    [.opens "p" [("id", "a"), ("title", "b & c")], .opens "br" [], .closes "p", .opens "script" [("async", "")],
      .holds "1<2", .closes "script"] := by decide +kernel

namespace State

/-- a text leads from one state to another, and gives some tokens -/
def Reads (state : State) (s : List Char) (state' : State) (given : List Token) : Prop :=
  state.run s = (state', given)

instance (state : State) (s : List Char) (state' : State) (given : List Token) :
    Decidable (Reads state s state' given) := inferInstanceAs (Decidable (_ = _))

theorem Reads.append {state state' state'' : State} {s r : List Char} {given more : List Token}
    (first : Reads state s state' given) (rest : Reads state' r state'' more) :
    Reads state (s ++ r) state'' (given ++ more) := by
  rw [Reads, run_append, first]
  exact congrArg (fun x => (x.1, given ++ x.2)) rest

/-! ## Values and raw text -/

theorem step_quoted (t : Tag) (n v : List Char) (mark c : Char) : (quoted t n mark v).step c =
    (if c = mark then valued (t.add n v) else quoted t n mark (c :: v), []) := rfl

theorem step_raw {element seen : List Char} {mode : Mode} {c : Char} : (raw element mode seen).step c =
    match mode.next? element seen c with
    | some mode => (raw element mode (c :: seen), [])
    | none =>
      let t : Tag := { closing := true, name := element.reverse }
      ((stepGap t c).1, .holds (Tag.text (seen.drop (element.length + 2))) :: (stepGap t c).2) := rfl

theorem run_quoted (t : Tag) (n v : List Char) {mark : Char} {s : List Char} (free : mark ∉ s) (r : List Char) :
    (quoted t n mark v).run (s ++ mark :: r) = (valued (t.add n (s.reverse ++ v))).run r := by
  induction s generalizing v with
  | nil =>
    rw [List.nil_append, run_cons, step_quoted, if_pos rfl]
    rfl
  | cons c s ih =>
    obtain ⟨other, free⟩ := not_or.mp (mt List.mem_cons.mpr free)
    rw [List.cons_append, run_cons, step_quoted, if_neg fun e => other e.symm, ih (c :: v) free, List.reverse_cons,
      List.append_assoc]
    rfl

end State

/-- the mode of raw text behind a text; there is none if the raw text ends in it -/
def Mode.after? (element seen : List Char) (mode : Mode) : List Char → Option Mode
  | [] => some mode
  | c :: s =>
    match mode.next? element seen c with
    | none => none
    | some mode => mode.after? element (c :: seen) s

variable {element seen s : List Char} {mode mode' : Mode}

theorem run_raw (h : mode.after? element seen s = some mode') :
    (State.raw element mode seen).run s = (.raw element mode' (s.reverse ++ seen), []) := by
  induction s generalizing mode seen with
  | nil =>
    cases h
    rfl
  | cons c s ih =>
    rw [Mode.after?] at h
    cases next : mode.next? element seen c with
    | none =>
      rw [next] at h
      cases h
    | some m =>
      rw [next] at h
      simp only [State.run_cons, State.step_raw, next, ih h, List.reverse_cons, List.append_assoc,
        List.singleton_append, List.append_nil]

/-- where raw text ends in a text, its element holds less than the text -/
theorem run_leaving (h : mode.after? element seen s = none) (r : List Char) :
    ∃ part more, ((State.raw element mode seen).run (s ++ r)).2 = .holds (String.ofList part) :: more ∧
      part.length < seen.length + s.length := by
  induction s generalizing mode seen with
  | nil => cases h
  | cons c s ih =>
    rw [Mode.after?] at h
    rw [List.cons_append, State.run_cons]
    cases next : mode.next? element seen c with
    | none =>
      simp only [State.step_raw, next]
      refine ⟨(seen.drop (element.length + 2)).reverse, _, rfl, ?_⟩
      simp
      omega
    | some m =>
      rw [next] at h
      obtain ⟨part, more, tokens, less⟩ := ih h
      simp only [State.step_raw, next, List.nil_append]
      refine ⟨part, more, tokens, ?_⟩
      simp at less ⊢
      omega

/-- the text of a script does not end its element, and the next `</script` does -/
def Contained (text : String) : Prop :=
  ∃ mode, Mode.plain.after? scriptName [] text.toList = some mode ∧ mode ≠ .nested

instance (text : String) : Decidable (Contained text) :=
  decidable_of_iff ((Mode.plain.after? scriptName [] text.toList).any (· != .nested) = true)
    (by simp [Contained, Option.any_eq_true])

theorem after?_feed (mode : Mode) (s : List Char) :
    mode.after? scriptName [] ('\n' :: s) = mode.after? scriptName ['\n'] s := by
  cases mode <;> with_unfolding_all rfl

/-! ### Scripts without comments -/

/-- a character that is no small letter is the small form of itself only -/
theorem eq_of_toLower {c d : Char} (h : c.toLower = d) (other : d.val < 97 ∨ 122 < d.val) : c = d := by
  unfold Char.toLower at h
  split at h
  · next capital =>
    have code : c.val + 32 = d.val := congrArg Char.val h
    obtain ⟨low, high⟩ : 65 ≤ c.val ∧ c.val ≤ 90 := capital
    grind
  · exact h

theorem mem_of_follows {word : List Char} (h : follows ('<' :: word) seen = true) : '<' ∈ seen := by
  have same : (seen.take (word.length + 1)).map Char.toLower = word.reverse ++ ['<'] := by
    simpa [follows] using h
  have mem : '<' ∈ (seen.take (word.length + 1)).map Char.toLower := by simp [same]
  obtain ⟨c, mem, lower⟩ := List.mem_map.mp mem
  exact eq_of_toLower lower (by decide) ▸ List.mem_of_mem_take mem

theorem exists_of_follows {word : List Char} (plain : ∀ d ∈ word, d.val < 97 ∨ 122 < d.val)
    (h : follows word seen = true) : ∃ rest, seen = word.reverse ++ rest := by
  have same : (seen.take word.length).map Char.toLower = word.reverse := by simpa [follows] using h
  have kept : (seen.take word.length).map Char.toLower = (seen.take word.length).map id :=
    List.map_congr_left fun c mem =>
      (eq_of_toLower rfl (plain _ (List.mem_reverse.mp (same ▸ List.mem_map_of_mem mem)))).symm
  refine ⟨seen.drop word.length, ?_⟩
  rw [← same, kept, List.map_id, List.take_append_drop]

theorem next?_uncommented {d : Char} (uncommented : ¬"<!--".toList <:+: seen.reverse ++ d :: s) :
    Mode.plain.next? scriptName seen d = if endsRaw scriptName seen d then none else some .plain := by
  have dash : (decide (d = '-') && follows ['<', '!', '-'] seen) = false := by
    refine Bool.eq_false_iff.mpr fun comments => ?_
    obtain ⟨rfl, comments⟩ : d = '-' ∧ follows ['<', '!', '-'] seen = true := by simpa using comments
    obtain ⟨rest, rfl⟩ := exists_of_follows (by simp) comments
    exact uncommented ⟨rest.reverse, s, by simp⟩
  unfold Mode.next?
  simp [dash]

theorem after?_uncommented (uncommented : ¬"<!--".toList <:+: seen.reverse ++ s) :
    (Mode.plain.after? scriptName seen s = some .plain ∧
      ∀ before c behind, s = before ++ c :: behind → endsRaw scriptName (before.reverse ++ seen) c = false) ∨
    (Mode.plain.after? scriptName seen s = none ∧
      ∃ before c behind, s = before ++ c :: behind ∧ endsRaw scriptName (before.reverse ++ seen) c = true) := by
  induction s generalizing seen with
  | nil => exact .inl ⟨rfl, fun _ _ _ same => by simp at same⟩
  | cons d s ih =>
    have shifted (before : List Char) : (d :: before).reverse ++ seen = before.reverse ++ (d :: seen) := by simp
    rw [Mode.after?, next?_uncommented uncommented]
    cases ends : endsRaw scriptName seen d with
    | true => exact .inr ⟨rfl, [], d, s, rfl, ends⟩
    | false =>
      rcases @ih (d :: seen) (by simpa using uncommented) with
        ⟨goesOn, never⟩ | ⟨left, before, c, behind, rfl, found⟩
      · refine .inl ⟨goesOn, fun before c behind same => ?_⟩
        cases before with
        | nil =>
          obtain ⟨rfl, -⟩ := List.cons.inj same
          exact ends
        | cons e before =>
          obtain ⟨rfl, rest⟩ := List.cons.inj same
          rw [shifted]
          exact never before c behind rest
      · exact .inr ⟨left, d :: before, c, behind, rfl, by rwa [shifted]⟩

/-- **A script without comments is contained unless a delimiter follows `</script` in it.** -/
theorem contained_iff {text : String} (uncommented : ¬"<!--".toList <:+: text.toList) : Contained text ↔
    ∀ before c behind, text.toList = before ++ c :: behind → endsRaw scriptName before.reverse c = false := by
  rcases @after?_uncommented [] text.toList uncommented with
    ⟨goesOn, never⟩ | ⟨left, before, c, behind, same, found⟩
  · refine iff_of_true ⟨.plain, goesOn, nofun⟩ fun before c behind same => ?_
    rw [← List.append_nil before.reverse]
    exact never before c behind same
  · refine iff_of_false (fun ⟨mode, goesOn, _⟩ => ?_) fun never => ?_
    · rw [left] at goesOn
      cases goesOn
    · rw [List.append_nil, never before c behind same] at found
      cases found

example : ¬Contained "from \"a</script><b>\"" ∧ Contained "from \"a</scripts>\"" := by decide +kernel

theorem after?_free (before : '<' ∉ seen) (free : '<' ∉ s) :
    Mode.plain.after? scriptName seen s = some .plain := by
  have uncommented : ¬"<!--".toList <:+: seen.reverse ++ s := fun inside => by
    have mem := inside.subset (by decide : '<' ∈ "<!--".toList)
    simp [before, free] at mem
  rcases after?_uncommented uncommented with ⟨goesOn, -⟩ | ⟨-, left, c, behind, same, found⟩
  · exact goesOn
  · have mem := mem_of_follows (Bool.and_eq_true_iff.mp found).2
    have inside : '<' ∉ left := fun mem => free (by rw [same]; exact List.mem_append_left _ mem)
    simp [before, inside] at mem

end SnippetStudio.Page
