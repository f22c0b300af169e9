import SnippetStudio.Scrape.Options

/-!
# Options filled in

Fields are taken one after the other, and one that cannot be taken leaves an issue behind for good
(`issues_fillField`).  No field but the address changes the address, so the address of options that were filled in
is the one that was given, once it is accepted (`url_fill`).  Where options are refused, something can be said on
the first issue (`reason_of_ofJson`).
-/

namespace SnippetStudio.ScrapeOptions

open Form (Cause Issue)

variable {fields : List (String × Json)} {o o' : ScrapeOptions} {v : Json} {f : Field}

theorem put_eq_ok {α : Type} {x : Except Cause α} {g : α → ScrapeOptions}
    (h : (do return g (← x)) = Except.ok o) : ∃ a, x = .ok a ∧ o = g a := by
  cases x with
  | error c => cases h
  | ok a => exact ⟨a, rfl, (Except.ok.inj h).symm⟩

theorem url_take (other : f ≠ .url) (h : take o v f = .ok o') : o'.url = o.url := by
  cases f with
  | url => exact absurd rfl other
  | _ =>
    obtain ⟨a, -, rfl⟩ := put_eq_ok h
    rfl

/-- what is wrong with a field is not forgotten -/
theorem issues_fillField {acc : ScrapeOptions × List Issue}
    (h : (fillField fields acc f).2 = []) : acc.2 = [] := by
  unfold fillField at h
  split at h
  · split at h
    · exact (List.append_eq_nil_iff.mp h).1
    · exact h
  · split at h
    · exact h
    · exact (List.append_eq_nil_iff.mp h).1

theorem url_fillField {acc : ScrapeOptions × List Issue} (other : f ≠ .url) :
    (fillField fields acc f).1.url = acc.1.url := by
  unfold fillField
  split
  · rw [if_neg other]
  · split
    · next h => exact url_take other h
    · rfl

theorem fill_rest {fs : List Field} (others : .url ∉ fs) (acc : ScrapeOptions × List Issue) :
    (fs.foldl (fillField fields) acc).1.url = acc.1.url ∧
      ((fs.foldl (fillField fields) acc).2 = [] → acc.2 = []) := by
  induction fs generalizing acc with
  | nil => exact ⟨rfl, id⟩
  | cons f fs ih =>
    rw [List.mem_cons, not_or] at others
    obtain ⟨url, issues⟩ := ih others.2 (fillField fields acc f)
    exact ⟨url.trans (url_fillField (Ne.symm others.1)), fun h => issues_fillField (issues h)⟩

/-- an address without an issue is the one that was given -/
theorem fillField_url {acc : ScrapeOptions × List Issue}
    (h : (fillField fields acc .url).2 = []) :
    ∃ v, Json.get? "url" fields = some v ∧ readUrl v = .ok (fillField fields acc .url).1.url := by
  have given : (Json.get? Field.url.outsideName fields).or (Json.get? Field.url.name fields) =
      Json.get? "url" fields := Option.or_self
  unfold fillField at h ⊢
  rw [given] at h ⊢
  split at h
  · simp at h
  · next v present =>
    refine ⟨v, present, ?_⟩
    split at h
    · next accepted =>
      obtain ⟨url, read, rfl⟩ := put_eq_ok accepted
      exact read
    · simp at h

/-- **The address of options is the one that was given**, if it was accepted. -/
theorem url_fill (h : fill fields = .ok o) :
    ∃ v, Json.get? "url" fields = some v ∧ readUrl v = .ok o.url := by
  obtain ⟨fs, others, all⟩ : ∃ fs, Field.url ∉ fs ∧ Field.all = .url :: fs :=
    ⟨_, by decide, rfl⟩
  have first := @fill_rest fields fs others (fillField fields ({ url := "" }, []) .url)
  unfold fill at h
  rw [all, List.foldl_cons] at h
  split at h
  · next filled folded =>
    rw [folded] at first
    have same : filled = o := by
      split at h
      · cases h
      · exact Except.ok.inj h
    obtain ⟨url, issues⟩ := first
    rw [← same, url]
    exact fillField_url (issues rfl)
  · cases h

/-- an address that is accepted is one that can be fetched -/
theorem check_of_readUrl {u url : String} (h : readUrl (.str u) = .ok url) :
    Address.check u = .ok url := by
  simp only [readUrl, Form.text, bind, Except.bind] at h
  split at h
  · next accepted => rw [accepted, Except.ok.inj h]
  · cases h

theorem readUrl_of_check {u url : String} (accepted : Address.check u = .ok url) :
    readUrl (.str u) = .ok url := by
  simp only [readUrl, Form.text, bind, Except.bind, accepted]

theorem fillField_of_readUrl {url : String} (present : Json.get? "url" fields = some v)
    (read : readUrl v = .ok url) : fillField fields ({ url := "" }, []) .url = ({ url }, []) := by
  have given : (Json.get? Field.url.outsideName fields).or (Json.get? Field.url.name fields) = some v :=
    Option.or_self.trans present
  have taken : take { url := "" } v .url = .ok { url } := by
    rw [take, read]
    rfl
  unfold fillField
  rw [given]
  dsimp only
  rw [taken]

end SnippetStudio.ScrapeOptions

namespace SnippetStudio

/-! ## Why options are refused -/

theorem Address.Refusal.message_ne_empty (r : Refusal) : r.message ≠ "" := by
  cases r with
  | notNumeric | disguised => exact fun empty => absurd (String.append_eq_empty_iff.mp empty).2 (by decide)
  | _ => decide

namespace Form

namespace Cause

theorem message_ne_empty (c : Cause) : c.message ≠ "" := by
  cases c with
  | notForm | notChoice | refused =>
    exact fun empty => absurd (String.append_eq_empty_iff.mp empty).1 (by decide)
  | _ => decide

/-- a cause that is no rule of the form speaks for itself -/
theorem reason_ne_empty {c : Cause} (h : ∀ r, c ≠ .refused r) : c.reason ≠ "" := by
  have message : c.reason = c.message := by
    cases c with
    | refused r => exact absurd rfl (h r)
    | _ => rfl
  exact message ▸ c.message_ne_empty

end Cause

variable {α β : Type} {x y : Except Cause α}

/-- if a value is not taken, there is something to be said on it -/
def Explained (x : Except Cause α) : Prop := ∀ c, x = .error c → c.reason ≠ ""

theorem explained_ok (a : α) : Explained (.ok a : Except Cause α) := nofun

theorem explained_error {c : Cause} (h : ∀ r, c ≠ .refused r) : Explained (.error c : Except Cause α) := by
  rintro _ ⟨⟩
  exact c.reason_ne_empty h

theorem Explained.ite {c : Prop} [Decidable c] (hx : Explained x) (hy : Explained y) :
    Explained (if c then x else y) := by
  split
  · exact hx
  · exact hy

theorem Explained.bind (hx : Explained x) {f : α → Except Cause β} (hf : ∀ a, Explained (f a)) :
    Explained (x >>= f) := by
  cases x with
  | ok a => exact hf a
  | error c =>
    rintro _ ⟨⟩
    exact hx c rfl

theorem explained_text (v : Json) : Explained (text v) := by
  cases v with
  | str s => exact explained_ok s
  | _ => exact explained_error nofun

theorem explained_ofWhole (x : Float) : Explained (ofWhole x) := by
  unfold ofWhole
  cases Decimal.Kind.ofFloat x with
  | finite negative m =>
    exact .ite (explained_error nofun) (.ite (explained_error nofun) (explained_ok _))
  | _ => exact explained_error nofun

theorem explained_plainInteger (s : List Char) : Explained (plainInteger s) := by
  unfold plainInteger
  split
  exact .ite (explained_error nofun) (.ite (explained_error nofun)
    (.ite (explained_error nofun) (explained_ok _)))

theorem explained_readInteger (s : List Char) : Explained (readInteger s) := by
  unfold readInteger
  split
  · split
    · exact explained_plainInteger _
    · exact explained_error nofun
  · exact explained_plainInteger _

theorem explained_integer (v : Json) : Explained (integer v) := by
  cases v with
  | int n => exact explained_ok n
  | bool b => exact explained_ok _
  | real x => exact explained_ofWhole x
  | str s => exact explained_readInteger s.toList
  | _ => exact explained_error nofun

theorem explained_ofNumber (n : Int) : Explained (ofNumber n) :=
  .ite (explained_ok false) (.ite (explained_ok true) (explained_error nofun))

theorem explained_boolean (v : Json) : Explained (boolean v) := by
  cases v with
  | bool b => exact explained_ok b
  | int n => exact .ite (explained_ofNumber n) (explained_error nofun)
  | real x =>
    unfold boolean
    dsimp only
    cases ofWhole x with
    | ok n => exact explained_ofNumber n
    | error c => exact explained_error nofun
  | str s => exact .ite (explained_ok true) (.ite (explained_ok false) (explained_error nofun))
  | _ => exact explained_error nofun

theorem explained_optional {read : Json → Except Cause α} (h : ∀ v, Explained (read v)) (v : Json) :
    Explained (optional read v) := by
  cases v with
  | null => exact explained_ok none
  | _ => exact (h _).bind fun a => explained_ok _

end Form

namespace ScrapeOptions

open Form

theorem explained_readUrl (v : Json) : Explained (readUrl v) := by
  refine (explained_text v).bind fun s => ?_
  cases Address.check s with
  | ok url => exact explained_ok url
  | error r =>
    rintro _ ⟨⟩
    exact r.message_ne_empty

theorem explained_readDevice (v : Json) : Explained (readDevice v) := by
  unfold readDevice
  split
  · split
    · exact explained_ok _
    · exact explained_error nofun
  · exact explained_error nofun

theorem explained_take (o : ScrapeOptions) (v : Json) (f : Field) : Explained (take o v f) := by
  cases f with
  | url => exact (explained_readUrl v).bind fun _ => explained_ok _
  | device => exact (explained_readDevice v).bind fun _ => explained_ok _
  | country => exact (explained_optional explained_text v).bind fun _ => explained_ok _
  | waitFor => exact (explained_optional explained_integer v).bind fun _ => explained_ok _
  | _ => exact (explained_boolean v).bind fun _ => explained_ok _

theorem reason_of_fillField {fields : List (String × Json)} {acc : ScrapeOptions × List Issue} (f : Field) 
    (h : ∀ i ∈ acc.2, i.cause.reason ≠ "") : ∀ i ∈ (fillField fields acc f).2, i.cause.reason ≠ "" := by
  have behind {c : Cause} (hc : c.reason ≠ "") :
      ∀ i ∈ acc.2 ++ [⟨[f.outsideName], c⟩], i.cause.reason ≠ "" :=
    List.forall_mem_append.mpr ⟨h, List.forall_mem_singleton.mpr hc⟩
  unfold fillField
  split
  · split
    · exact behind (by decide)
    · exact h
  · split
    · exact h
    · next c refused => exact behind (explained_take _ _ f c refused)

theorem reason_of_foldl (fields : List (String × Json)) (fs : List Field) (acc : ScrapeOptions × List Issue)
    (h : ∀ i ∈ acc.2, i.cause.reason ≠ "") :
    ∀ i ∈ (fs.foldl (fillField fields) acc).2, i.cause.reason ≠ "" := by
  induction fs generalizing acc with
  | nil => exact h
  | cons f fs ih => exact ih _ (reason_of_fillField f h)

/-- options that are refused come with an issue, and the first of them has a reason -/
theorem reason_of_ofJson {v : Json} {issues : List Issue} (h : ofJson v = .error issues) :
    ((issues.head?.map (·.cause.reason)).getD "") ≠ "" := by
  cases v with
  | obj fields =>
    have reasons := reason_of_foldl fields Field.all ({ url := "" }, []) nofun
    change fill fields = .error issues at h
    unfold fill at h
    split at h
    · split at h
      · cases h
        decide
      · cases h
    · next found some folded =>
      obtain rfl := Except.error.inj h
      rw [folded] at reasons
      cases found with
      | nil => exact (some rfl).elim
      | cons i rest => exact reasons i List.mem_cons_self
  | _ =>
    obtain rfl := Except.error.inj h
    exact (Cause.notForm "ScrapeOptions").message_ne_empty

end ScrapeOptions

end SnippetStudio
