import SnippetStudio.Web.Link

/-!
# URLs with a key

A key is the value of the first parameter of a URL.  What a client does with such a URL does not depend on the
key, unless one of two keys makes the URL too long (`Outgrown`): a link is joined to it in the same way, and
leads to the same URL, or to one with the key at the same place (`Keyed`).

* `keyed_join`                a link on the page of such a URL;
* `likewise_fit`              whether one of its parts is too long;
* `likewise_led`              where a link leads;
* `likewise_withFragmentOf`   the fragment that goes along.
-/

namespace SnippetStudio

/-- two outcomes: both are good and related, or both are the same fault, unless one of them is lost -/
inductive Likewise {ε α β : Type} (R : α → β → Prop) (lost lost' : ε → Prop) : Except ε α → Except ε β → Prop
  | ok {a : α} {b : β} (related : R a b) : Likewise R lost lost' (.ok a) (.ok b)
  | error (e : ε) : Likewise R lost lost' (.error e) (.error e)
  | left {e : ε} (gone : lost e) (y : Except ε β) : Likewise R lost lost' (.error e) y
  | right {e : ε} (gone : lost' e) (x : Except ε α) : Likewise R lost lost' x (.error e)

namespace Likewise

variable {ε ε' α β γ δ : Type} {R : α → β → Prop} {S : γ → δ → Prop} {lost lost' : ε → Prop}
  {x : Except ε α} {y : Except ε β}

theorem bind {f : α → Except ε γ} {g : β → Except ε δ} (h : Likewise R lost lost' x y)
    (rest : ∀ a b, R a b → Likewise S lost lost' (f a) (g b)) : Likewise S lost lost' (x >>= f) (y >>= g) := by
  cases h with
  | ok related => exact rest _ _ related
  | error e => exact .error e
  | left gone => exact .left gone _
  | right gone => exact .right gone _

theorem map {f : α → γ} {g : β → δ} (h : Likewise R lost lost' x y) (rest : ∀ a b, R a b → S (f a) (g b)) :
    Likewise S lost lost' (x.map f) (y.map g) := by
  cases h with
  | ok related => exact .ok (rest _ _ related)
  | error e => exact .error e
  | left gone => exact .left gone _
  | right gone => exact .right gone _

theorem imp {R' : α → β → Prop} (h : Likewise R lost lost' x y) (weaker : ∀ a b, R a b → R' a b) :
    Likewise R' lost lost' x y := by
  cases h with
  | ok related => exact .ok (weaker _ _ related)
  | error e => exact .error e
  | left gone => exact .left gone _
  | right gone => exact .right gone _

theorem mapError {gone gone' : ε' → Prop} {f : ε → ε'} (h : Likewise R lost lost' x y)
    (goes : ∀ e, lost e → gone (f e)) (goes' : ∀ e, lost' e → gone' (f e)) :
    Likewise R gone gone' (x.mapError f) (y.mapError f) := by
  cases h with
  | ok related => exact .ok related
  | error e => exact .error _
  | left gone => exact .left (goes _ gone) _
  | right gone => exact .right (goes' _ gone) _

theorem refl {R : α → α → Prop} (same : ∀ a, R a a) (x : Except ε α) : Likewise R lost lost' x x := by
  cases x with
  | ok a => exact .ok (same a)
  | error e => exact .error e

/-- the same limit to both; an outcome is lost when it alone exceeds it -/
theorem limit (h : Likewise R lost lost' x y) {limit n n' : Nat} {e : ε}
    (left : limit < n → n' ≤ limit → lost e) (right : limit < n' → n ≤ limit → lost' e) :
    Likewise R lost lost' (if limit < n then .error e else x) (if limit < n' then .error e else y) := by
  by_cases long : limit < n <;> by_cases long' : limit < n'
  · rw [if_pos long, if_pos long']
    exact .error e
  · rw [if_pos long]
    exact .left (left long (Nat.not_lt.mp long')) _
  · rw [if_pos long']
    exact .right (right long' (Nat.not_lt.mp long)) _
  · rw [if_neg long, if_neg long']
    exact h

end Likewise

namespace Url

open Text

/-! ## Places -/

theorem unusual_bind (scheme : String) (n : Option Int) :
    (n.bind (unusual scheme)).bind (unusual scheme) = n.bind (unusual scheme) := by
  cases n with
  | none => rfl
  | some n =>
    by_cases h : usualPortNumber? scheme = some n <;> simp [unusual, h]

/-- the last part of a path -/
def lastPart (path : List Char) : List Char := (path.reverse.takeWhile (· != '/')).reverse

/-- the path in front of its last part -/
def frontPart (path : List Char) : List Char := (path.reverse.dropWhile (· != '/')).reverse

theorem frontPart_append_lastPart (path : List Char) : frontPart path ++ lastPart path = path := by
  rw [frontPart, lastPart, ← List.reverse_append, List.takeWhile_append_dropWhile, List.reverse_reverse]

theorem take_lastPart (path : List Char) :
    path.take (path.length - (lastPart path).length) = frontPart path := by
  have split := frontPart_append_lastPart path
  have length : path.length - (lastPart path).length = (frontPart path).length := by
    rw [← congrArg List.length split, List.length_append, Nat.add_sub_cancel]
  rw [length]
  exact (List.prefix_iff_eq_take.mp ⟨_, split⟩).symm

theorem not_mem_lastPart (path : List Char) : '/' ∉ lastPart path := by
  intro mem
  have other := (List.all_eq_true.mp (List.all_takeWhile (l := path.reverse))) '/' (List.mem_reverse.mp mem)
  simp at other

theorem lastPart_frontPart_append (path : List Char) {name : List Char} (h : '/' ∉ name) :
    lastPart (frontPart path ++ name) = name := by
  have all : ∀ c ∈ name.reverse, (c != '/') = true := by
    intro c mem
    have other : c ≠ '/' := fun e => h (e ▸ List.mem_reverse.mp mem)
    simpa using other
  have none : (path.reverse.dropWhile (· != '/')).takeWhile (· != '/') = [] := by
    have first := List.head?_dropWhile_not (· != '/') path.reverse
    cases rest : path.reverse.dropWhile (· != '/') with
    | nil => rfl
    | cons c s =>
      rw [rest] at first
      exact List.takeWhile_cons_of_neg (by simpa using first)
  rw [lastPart, frontPart, List.reverse_append, List.reverse_reverse, List.takeWhile_append_of_pos all,
    none, List.append_nil, List.reverse_reverse]

theorem cutParameters_eq {scheme : String} (h : parameterSchemes.contains scheme = true)
    (path : List Char) : cutParameters scheme path =
      (frontPart path ++ (cutOnce ';' (lastPart path)).1, (cutOnce ';' (lastPart path)).2.getD []) := by
  rw [cutParameters, if_pos h, ← take_lastPart]
  rfl

theorem withParameters_cutParameters {scheme : String} {path : List Char} (h : ';' ∉ lastPart path) :
    withParameters (cutParameters scheme path).1 (cutParameters scheme path).2 = path := by
  by_cases known : parameterSchemes.contains scheme = true
  · rw [cutParameters_eq known, cutOnce_of_not_mem h]
    exact frontPart_append_lastPart path
  · rw [cutParameters, if_neg known]
    rfl

/-- A path is tidy, or what is left out of it is a semicolon at its end. -/
theorem withParameters_cutParameters_cases (scheme : String) (path : List Char) :
    withParameters (cutParameters scheme path).1 (cutParameters scheme path).2 = path ∨
      ∃ name, ';' ∉ name ∧ '/' ∉ name ∧
        withParameters (cutParameters scheme path).1 (cutParameters scheme path).2 =
          frontPart path ++ name := by
  by_cases known : parameterSchemes.contains scheme = true
  · by_cases mem : ';' ∈ lastPart path
    · obtain ⟨name, parameters, split, plain⟩ := List.eq_append_cons_of_mem mem
      have slash : '/' ∉ name := fun h =>
        not_mem_lastPart path (split ▸ List.mem_append_left _ h)
      rw [cutParameters_eq known, split, cutOnce_append plain]
      cases parameters with
      | nil => exact .inr ⟨name, plain, slash, rfl⟩
      | cons c s =>
        refine .inl ?_
        show frontPart path ++ name ++ ';' :: c :: s = path
        rw [List.append_assoc, ← split, frontPart_append_lastPart]
    · exact .inl (withParameters_cutParameters mem)
  · rw [cutParameters, if_neg known]
    exact .inl rfl

theorem tidyPath_eq (scheme path : String) : tidyPath scheme path =
    String.ofList (withParameters (cutParameters scheme path.toList).1 (cutParameters scheme path.toList).2) :=
  rfl

theorem tidyPath_tidyPath (scheme path : String) :
    tidyPath scheme (tidyPath scheme path) = tidyPath scheme path := by
  rcases withParameters_cutParameters_cases scheme path.toList with same | ⟨name, plain, slash, cut⟩
  · have tidy : tidyPath scheme path = path := by rw [tidyPath_eq, same, String.ofList_toList]
    rw [tidy, tidy]
  · rw [tidyPath_eq scheme path, cut, tidyPath_eq, String.toList_ofList, withParameters_cutParameters]
    rwa [lastPart_frontPart_append _ slash]

/-- where a URL leads: its query and its fragment left out, and its path tidy -/
def site (u : Url) : Url :=
  { u.normal with path := tidyPath u.scheme u.path, query := none, fragment := none }

/-! ## Parameters -/

/-- the number of characters that a text takes as a value of a query -/
def written (k : String) : Nat := (Percent.encodeForm k.toList).length

theorem queryText_cons (name : String) (ps : List (String × String)) : ∃ before after, ∀ k,
    queryText ((name, k) :: ps) =
      before ++ "=" ++ String.ofList (Percent.encodeForm k.toList) ++ after := by
  have pair (k : String) : String.ofList (Percent.encodeForm name.toList ++ '=' :: Percent.encodeForm k.toList) =
      String.ofList (Percent.encodeForm name.toList) ++ "=" ++
        String.ofList (Percent.encodeForm k.toList) := by
    simp [← String.toList_inj]
  refine ⟨String.ofList (Percent.encodeForm name.toList), if ps.isEmpty then "" else "&" ++ queryText ps,
    fun k => ?_⟩
  cases ps with
  | nil =>
    rw [← pair, List.isEmpty_nil, if_pos rfl, String.append_empty, queryText, List.map_singleton,
      String.intercalate_singleton]
  | cons p ps =>
    rw [← pair, List.isEmpty_cons, if_neg Bool.false_ne_true, queryText, List.map_cons, List.map_cons,
      String.intercalate_cons_cons, String.append_assoc]
    rfl

theorem length_queryText (name : String) (ps : List (String × String)) : ∃ others, ∀ k,
    (queryText ((name, k) :: ps)).length = others + written k := by
  obtain ⟨before, after, eq⟩ := queryText_cons name ps
  refine ⟨(before ++ "=").length + after.length, fun k => ?_⟩
  rw [eq, String.length_append, String.length_append, String.length_ofList, written]
  omega

theorem filled_queryText (name k : String) (ps : List (String × String)) :
    filled (some (queryText ((name, k) :: ps))) = some (queryText ((name, k) :: ps)) := by
  obtain ⟨before, after, eq⟩ := queryText_cons name ps
  have : (queryText ((name, k) :: ps)).isEmpty = false := by
    rw [eq]
    simp
  simp [filled, Option.filter, this]

/-- two URLs with a key each, the same otherwise, which lead where another one does -/
def Keyed (name k k' : String) (e u u' : Url) : Prop :=
  ∃ (v : Url) (ps : List (String × String)), v.site = e.site ∧
    u = v.withParams ((name, k) :: ps) ∧ u' = v.withParams ((name, k') :: ps)

/-- a URL is too long with the first key, as a whole or in its query, and is not with the other -/
def Outgrown (name k k' : String) (e : Url) (f : Flaw) : Prop :=
  ∃ u u', Keyed name k k' e u u' ∧
    (f = .long ∧ lengthLimit < u.text.length ∧ u'.text.length ≤ lengthLimit ∨
      f = .longPart "query" ∧ lengthLimit < (u.query.getD "").length ∧ (u'.query.getD "").length ≤ lengthLimit)

variable {name k k' : String} {e v u u' base base' : Url} {ps : List (String × String)}

theorem Keyed.symm (h : Keyed name k k' e u u') : Keyed name k' k e u' u := by
  obtain ⟨v, ps, site, same, same'⟩ := h
  exact ⟨v, ps, site, same', same⟩

theorem fit_withParams (name k : String) (v : Url) (ps : List (String × String)) :
    (v.withParams ((name, k) :: ps)).fit =
      match [("scheme", v.scheme), ("authority", v.normal.authority), ("path", v.path)].find?
          fun p => lengthLimit < p.2.length with
      | some p => .error (.longPart p.1)
      | none =>
        if lengthLimit < (queryText ((name, k) :: ps)).length then .error (.longPart "query")
        else match (v.fragment.map fun f => ("fragment", f)).toList.find? fun p => lengthLimit < p.2.length with
          | some p => .error (.longPart p.1)
          | none => .ok (v.withParams ((name, k) :: ps)) := by
  have parts : (v.withParams ((name, k) :: ps)).parts =
      [("scheme", v.scheme), ("authority", v.normal.authority), ("path", v.path)] ++
        ("query", queryText ((name, k) :: ps)) :: (v.fragment.map fun f => ("fragment", f)).toList := rfl
  rw [fit, parts, List.find?_append]
  cases List.find? _ [("scheme", v.scheme), ("authority", v.normal.authority), ("path", v.path)] with
  | some p => rfl
  | none =>
    rw [Option.none_or, List.find?_cons]
    cases List.find? _ (v.fragment.map fun f => ("fragment", f)).toList <;>
      by_cases long : lengthLimit < (queryText ((name, k) :: ps)).length <;> simp [long]

theorem likewise_fit (h : Keyed name k k' e u u') :
    Likewise (Keyed name k k' e) (Outgrown name k k' e) (Outgrown name k' k e) u.fit u'.fit := by
  have keyed := h
  obtain ⟨v, ps, site, rfl, rfl⟩ := h
  rw [fit_withParams, fit_withParams]
  split
  · exact .error _
  · refine Likewise.limit ?_ (fun long short => ⟨_, _, keyed, .inr ⟨rfl, long, short⟩⟩) fun long short =>
      ⟨_, _, keyed.symm, .inr ⟨rfl, long, short⟩⟩
    split
    · exact .error _
    · exact .ok keyed

/-! ## Links -/

theorem normal_withParams (v : Url) (ps : List (String × String)) :
    (v.withParams ps).normal = v.withParams ps := by
  rw [withParams, normal]
  simp only [normal, unusual_bind]

theorem Keyed.withFragment (h : Keyed name k k' e u u') (fragment : Option String) :
    Keyed name k k' e { u with fragment } { u' with fragment } := by
  obtain ⟨v, ps, site, rfl, rfl⟩ := h
  exact ⟨{ v with fragment }, ps, site, rfl, rfl⟩

theorem Keyed.scheme (h : Keyed name k k' e u u') : u.scheme = e.scheme ∧ u'.scheme = e.scheme := by
  obtain ⟨v, ps, site, rfl, rfl⟩ := h
  have scheme : v.site.scheme = e.site.scheme := congrArg Url.scheme site
  exact ⟨scheme, scheme⟩

theorem Keyed.host (h : Keyed name k k' e u u') : u.host = u'.host := by
  obtain ⟨v, ps, -, rfl, rfl⟩ := h
  rfl

theorem Keyed.fragment (h : Keyed name k k' e u u') : u.fragment = u'.fragment := by
  obtain ⟨v, ps, -, rfl, rfl⟩ := h
  rfl

theorem Keyed.normal (h : Keyed name k k' e u u') : Keyed name k k' e u.normal u'.normal := by
  obtain ⟨v, ps, site, rfl, rfl⟩ := h
  rw [normal_withParams, normal_withParams]
  exact ⟨v, ps, site, rfl, rfl⟩

theorem site_moved (v : Url) (fragment : Option String) :
    { v with path := tidyPath v.scheme v.path, fragment }.site = v.site := by
  simp only [site, normal, tidyPath_tidyPath]

/-- A link on the page of a URL with a key leads to the same URL whatever the key is, or to the page itself. -/
theorem keyed_join (h : Keyed name k k' e base base') (link : Url) :
    base.join link = base'.join link ∨ Keyed name k k' e (base.join link) (base'.join link) := by
  obtain ⟨v, ps, site, rfl, rfl⟩ := h
  have scheme (k : String) : (v.withParams ((name, k) :: ps)).scheme = v.scheme := rfl
  rw [join, join]
  by_cases empty : link.text.isEmpty = true
  · rw [if_pos empty, if_pos empty]
    exact .inr ⟨v, ps, site, rfl, rfl⟩
  rw [if_neg empty, if_neg empty, scheme, scheme]
  by_cases known : (!relativeSchemes.contains v.scheme) = true
  · rw [if_pos known, if_pos known]
    exact .inl rfl
  rw [if_neg known, if_neg known]
  by_cases authority : (!link.authority.isEmpty) = true
  · exact .inl (by simp only [authority, if_true])
  by_cases path : ((cutParameters v.scheme link.path.toList).1.isEmpty &&
      (cutParameters v.scheme link.path.toList).2.isEmpty) = true
  · simp only [authority, path, if_true]
    have query (k : String) : filled (v.withParams ((name, k) :: ps)).query =
        some (queryText ((name, k) :: ps)) := filled_queryText name k ps
    rw [query, query]
    cases asked : filled link.query with
    | some q => exact .inl rfl
    | none =>
      refine .inr ⟨{ v with path := tidyPath v.scheme v.path, fragment := filled link.fragment }, ps, ?_, ?_, ?_⟩
      · rw [site_moved, site]
      · rfl
      · rfl
  · simp only [authority, path]
    exact .inl rfl

theorem likewise_led (h : Keyed name k k' e base base') (link : Url) :
    Likewise (fun u u' => u = u' ∨ Keyed name k k' e u u') (Outgrown name k k' e) (Outgrown name k' k e)
      (base.led link) (base'.led link) := by
  rw [led, led]
  split
  · exact .ok (.inl rfl)
  · rcases keyed_join h link with same | keyed
    · rw [same]
      exact .refl (fun _ => .inl rfl) _
    · exact .limit (.ok (.inr keyed.normal)) (fun long short => ⟨_, _, keyed, .inl ⟨rfl, long, short⟩⟩)
        fun long short => ⟨_, _, keyed.symm, .inl ⟨rfl, long, short⟩⟩

theorem housed_congr (h : base.host = base'.host) (link : Url) : base.housed link = base'.housed link := by
  rw [housed, housed, h]

theorem withFragmentOf_congr (h : base.fragment = base'.fragment) (u : Url) :
    base.withFragmentOf u = base'.withFragmentOf u := by
  rw [withFragmentOf, withFragmentOf, h]

theorem likewise_withFragmentOf (base : Url) (h : Keyed name k k' e u u') :
    Likewise (Keyed name k k' e) (Outgrown name k k' e) (Outgrown name k' k e) (base.withFragmentOf u)
      (base.withFragmentOf u') := by
  rw [withFragmentOf, withFragmentOf, h.fragment]
  cases filled base.fragment with
  | none => exact .ok h
  | some f =>
    cases filled u'.fragment with
    | some _ => exact .ok h
    | none =>
      refine (likewise_fit (h.withFragment _)).bind fun whole whole' keyed => ?_
      split
      · exact .error _
      · exact .ok (keyed.normal.withFragment _)

end Url

end SnippetStudio
