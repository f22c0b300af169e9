import Mathlib.Data.List.TakeWhile
import SnippetStudio.Pipeline.Run
import SnippetStudio.Proofs.Scrape.Filled

/-!
# Addresses that are completed

Whether an address can be fetched is decided by its scheme, as it is read: in any letter case, and without
what does not count (`reading`).  A run looks at the letters that the address begins with
(`complete`).  The two go together for an address that begins with its scheme as it is read; any other
address gets a second scheme in front, and what was its scheme becomes the name of the host.  The
result can be fetched as well, so nothing stops the run.

* `check_eq_ok`        what is accepted, by its reading;
* `reading_link`       a scheme in small letters is read as it stands;
* `reading_completed`  a second scheme in front turns the first into a host;
* `check_complete`     what is completed is accepted as it stands;
* `url_completed`      **what a run fetches for an address that is accepted**.
-/

namespace SnippetStudio.Address

open Text

/-- the letters of an address are kept, tabs and line breaks are not -/
def isKept (c : Char) : Bool := !(c == '\t' || c == '\r' || c == '\n')

/-- an address as it is read: its scheme in small letters, and what stands between `//` and the path -/
def reading (s : List Char) : List Char × List Char :=
  let (scheme, rest) := (scheme? (clean s)).getD ([], clean s)
  (scheme, (authority? rest).getD [])

def IsWeb (scheme : List Char) : Prop := scheme = "http".toList ∨ scheme = "https".toList

instance (scheme : List Char) : Decidable (IsWeb scheme) :=
  inferInstanceAs (Decidable (_ ∨ _))

variable {url u a : String} {s t name : List Char}

theorem check_eq (url : String) : check url = (do
    let (scheme, authority) := reading (trim url.toList)
    checkAuthority authority
    if IsWeb scheme ∧ authority ≠ [] then .ok (trimmed url) else .error .notAbsolute) := rfl

theorem check_eq_ok : check url = .ok a ↔
    a = trimmed url ∧ IsWeb (reading (trim url.toList)).1 ∧ (reading (trim url.toList)).2 ≠ [] ∧
      checkAuthority (reading (trim url.toList)).2 = .ok () := by
  rw [check_eq]
  obtain ⟨scheme, authority⟩ := reading (trim url.toList)
  show (checkAuthority authority >>= _) = _ ↔ _
  cases checkAuthority authority with
  | error r => simp [bind, Except.bind]
  | ok x =>
    show (if IsWeb scheme ∧ authority ≠ [] then _ else _) = _ ↔ _
    split
    · next h => simp [h, eq_comm]
    · next h => simpa using fun _ => not_and.mp h

/-! ## What is left of an address -/

/-- what is kept of an address is what is read, behind controls and spaces -/
theorem filter_isKept (s : List Char) :
    ∃ lead, (∀ c ∈ lead, c.toNat ≤ 0x20) ∧ s.filter isKept = lead ++ clean s := by
  refine ⟨(s.takeWhile fun c => c.toNat ≤ 0x20).filter isKept, fun c mem => ?_, ?_⟩
  · have taken := List.mem_takeWhile_imp (List.mem_filter.mp mem).1
    exact of_decide_eq_true taken
  · show _ = _ ++ List.filter isKept (s.dropWhile _)
    rw [← List.filter_append, List.takeWhile_append_dropWhile]

theorem ascii_of_isSchemeChar {c : Char} (h : isSchemeChar c) : 0x20 < c.toNat ∧ c.toNat < 0x80 := by
  have within (low high : Nat) (l : 0x20 < low) (r : high < 0x80)
      (between : low ≤ c.toNat ∧ c.toNat ≤ high) : 0x20 < c.toNat ∧ c.toNat < 0x80 := by omega
  change ((c.isUpper || c.isLower || c.isDigit) || c == '+' || c == '-' || c == '.') = true at h
  simp only [Bool.or_eq_true, beq_iff_eq] at h
  rcases h with ((((upper | lower) | digit) | rfl) | rfl) | rfl
  · exact within 65 90 (by decide) (by decide) (of_decide_eq_true upper)
  · exact within 97 122 (by decide) (by decide)
      ((Bool.and_eq_true_iff.mp lower).imp of_decide_eq_true of_decide_eq_true)
  · exact within 48 57 (by decide) (by decide)
      ((Bool.and_eq_true_iff.mp digit).imp of_decide_eq_true of_decide_eq_true)
  all_goals decide

/-! ## The scheme -/

/-- a name that can be one of a scheme -/
def IsName (w : List Char) : Prop := (∃ c ∈ w.head?, c.isAlpha) ∧ ∀ c ∈ w, isSchemeChar c

theorem scheme?_eq_some {r : List Char} : scheme? s = some (name, r) ↔
    ∃ w, IsName w ∧ w.map Char.toLower = name ∧ s = w ++ ':' :: r := by
  constructor
  · intro h
    unfold scheme? at h
    split at h
    · next c s' w rest cuts =>
      split at h
      · next named =>
        obtain ⟨rfl, rfl⟩ := Prod.mk.inj (Option.some.inj h)
        obtain ⟨split, -⟩ := of_cutOnce cuts
        rw [Bool.and_eq_true, List.all_eq_true] at named
        refine ⟨w, ⟨⟨c, ?_, named.1⟩, named.2⟩, rfl, split⟩
        cases w with
        | nil =>
          obtain ⟨rfl, -⟩ := List.cons.inj split
          exact absurd named.1 (by decide)
        | cons d w =>
          obtain ⟨rfl, -⟩ := List.cons.inj split
          rfl
      · cases h
    · cases h
  · rintro ⟨w, ⟨⟨c, first, letter⟩, all⟩, rfl, rfl⟩
    cases w with
    | nil => cases first
    | cons d w =>
      obtain rfl := Option.some.inj first
      have noColon : ':' ∉ d :: w := fun mem => absurd (all _ mem) (by decide)
      have cuts := cutOnce_append (b := r) noColon
      rw [List.cons_append] at cuts
      simp only [List.cons_append, scheme?, cuts, letter, List.all_eq_true.mpr all, Bool.and_self, if_true]

/-- a scheme in small letters is read as it stands -/
theorem reading_link (web : IsWeb name) (s : List Char) :
    reading (name ++ "://".toList ++ s) =
      (name, (s.filter isKept).takeWhile fun c => !endsAuthority c) := by
  have cleaned : clean (name ++ "://".toList ++ s) = name ++ ':' :: '/' :: '/' :: s.filter isKept := by
    rcases web with rfl | rfl <;> rfl
  have named : IsName name ∧ name.map Char.toLower = name := by
    rcases web with rfl | rfl <;> simp [IsName] <;> decide
  have scheme := scheme?_eq_some.mpr ⟨name, named.1, named.2, cleaned⟩
  rw [reading, scheme]
  rfl

theorem clean_of_reading (web : IsWeb (reading s).1) (host : (reading s).2 ≠ []) :
    ∃ w r, IsName w ∧ w.map Char.toLower = (reading s).1 ∧ clean s = w ++ "://".toList ++ r := by
  unfold reading at *
  cases h : scheme? (clean s) with
  | none =>
    rw [h] at web
    exact absurd (show IsWeb [] from web) (by decide)
  | some parts =>
    obtain ⟨name, rest⟩ := parts
    rw [h] at host
    obtain ⟨w, named, lower, cleaned⟩ := scheme?_eq_some.mp h
    cases behind : after? ['/', '/'] rest with
    | none =>
      refine absurd ?_ host
      show (authority? rest).getD [] = []
      rw [authority?, behind]
      rfl
    | some r =>
      refine ⟨w, r, named, lower, ?_⟩
      rw [cleaned, after?_eq_some.mp behind, List.append_assoc]
      rfl

/-! ## A second scheme in front -/

/-- a character that a host may have outside brackets -/
def isPlain (c : Char) : Bool := c.toNat < 0x80 && !endsAuthority c && c != '[' && c != ']'

theorem isPlain_of_le {c : Char} (h : c.toNat ≤ 0x20) : isPlain c := by
  have other (d : Char) (far : 0x20 < d.toNat) : c ≠ d := fun same => absurd (same ▸ h) (by omega)
  simp [isPlain, endsAuthority, Nat.lt_of_le_of_lt h, other]

theorem isPlain_of_isSchemeChar {c : Char} (h : isSchemeChar c) : isPlain c := by
  have other (d : Char) (far : isSchemeChar d = false) : c ≠ d := fun same => by simp [same, far] at h
  have few := (ascii_of_isSchemeChar h).2
  simp [isPlain, endsAuthority, few, other '/' (by decide), other '?' (by decide),
    other '#' (by decide), other '[' (by decide), other ']' (by decide)]

theorem checkAuthority_plain (plain : ∀ c ∈ s, isPlain c) : checkAuthority s = .ok () := by
  have lacks (d : Char) (marks : isPlain d = false) : s.contains d = false := by
    rw [List.contains_eq_mem]
    exact decide_eq_false fun mem => by simp [plain d mem] at marks
  have undisguised : s.any isDisguise = false := by
    refine List.any_eq_false.mpr fun c mem disguise => ?_
    have far : ∀ n ∈ disguises, 0x80 ≤ n := by decide
    have few := plain c mem
    simp only [isPlain, Bool.and_eq_true, decide_eq_true_eq] at few
    have := far _ (List.contains_iff_mem.mp disguise)
    omega
  simp only [checkAuthority, checkBrackets, lacks '[' rfl, lacks ']' rfl, undisguised]
  rfl

/-- a name behind controls and spaces is what is read of them -/
theorem clean_append {lead w : List Char} (blank : ∀ c ∈ lead, c.toNat ≤ 0x20)
    (named : ∀ c ∈ w, isSchemeChar c) : clean (lead ++ w) = w := by
  have stays : w.dropWhile (fun c => c.toNat ≤ 0x20) = w := by
    cases w with
    | nil => rfl
    | cons c w =>
      have visible := (ascii_of_isSchemeChar (named c List.mem_cons_self)).1
      exact List.dropWhile_cons_of_neg (by simpa using visible)
  rw [clean, List.dropWhile_append_of_pos (fun c mem => decide_eq_true (blank c mem)), stays]
  refine List.filter_eq_self.mpr fun c mem => ?_
  have other (d : Char) (far : isSchemeChar d = false) : c ≠ d := fun same => by
    simp [← same, named c mem] at far
  simp [other '\t' (by decide), other '\r' (by decide), other '\n' (by decide)]

theorem reading_completed (web : IsWeb (reading s).1) (host : (reading s).2 ≠ []) :
    ∃ host, (∀ c ∈ host, isPlain c) ∧ (clean host).map Char.toLower = (reading s).1 ∧
      reading ("https://".toList ++ s) = ("https".toList, host ++ [':']) := by
  obtain ⟨w, r, named, lower, cleaned⟩ := clean_of_reading web host
  obtain ⟨lead, blank, kept⟩ := filter_isKept s
  have plain : ∀ c ∈ lead ++ w, isPlain c := fun c mem =>
    (List.mem_append.mp mem).elim (isPlain_of_le ∘ blank c) (isPlain_of_isSchemeChar ∘ named.2 c)
  refine ⟨lead ++ w, plain, by rw [clean_append blank named.2, lower], ?_⟩
  have inHost : ∀ c ∈ lead ++ w ++ [':'], (!endsAuthority c) = true := by
    intro c mem
    rcases List.mem_append.mp mem with mem | mem
    · have := plain c mem
      simp only [isPlain, Bool.and_eq_true] at this
      exact this.1.1.2
    · obtain rfl := List.mem_singleton.mp mem
      rfl
  have text : lead ++ clean s = lead ++ w ++ [':'] ++ '/' :: ('/' :: r) := by
    rw [cleaned]
    simp
  have second := reading_link (.inr rfl) s
  rw [kept, text, List.takeWhile_append_of_pos inHost, List.takeWhile_cons_of_neg (by decide),
    List.append_nil] at second
  exact second

/-! ## What a run fetches -/

open ScrapeOptions (Field fill url_fill check_of_readUrl readUrl_of_check fillField_of_readUrl)

theorem complete_of_link (web : IsWeb name) (link : name ++ "://".toList <+: trim u.toList) :
    complete u = trimmed u := by
  obtain ⟨r, text⟩ := link
  have found : begins (name ++ "://".toList) (trim u.toList) = true := begins_iff.mpr ⟨r, text.symm⟩
  refine if_pos ?_
  rw [Bool.or_eq_true]
  rcases web with rfl | rfl
  · exact .inl found
  · exact .inr found

theorem complete_of_not_link
    (h : ¬(reading (trim u.toList)).1 ++ "://".toList <+: trim u.toList) :
    complete u = "https://" ++ trimmed u := by
  have noLink {name : List Char} (web : IsWeb name) {r : List Char}
      (text : trim u.toList = name ++ "://".toList ++ r) : False := by
    refine h ⟨r, ?_⟩
    rw [text, reading_link web]
  refine if_neg fun found => ?_
  rw [Bool.or_eq_true] at found
  rcases found with found | found
  · obtain ⟨r, text⟩ := begins_iff.mp found
    exact noLink (.inl rfl) text
  · obtain ⟨r, text⟩ := begins_iff.mp found
    exact noLink (.inr rfl) text

theorem trim_completed (some : trim s ≠ []) :
    trim ("https://".toList ++ trim s) = "https://".toList ++ trim s := by
  obtain ⟨t, e, ends, visible⟩ := trim_eq_concat some
  have whole := trim_of_ends (c := 'h') (s := "ttps://".toList ++ t) (by decide) visible
  rw [ends]
  simpa using whole

theorem check_complete (accepted : check u = .ok a) : check (complete u) = .ok (complete u) := by
  obtain ⟨-, web, host, checked⟩ := check_eq_ok.mp accepted
  by_cases link : (reading (trim u.toList)).1 ++ "://".toList <+: trim u.toList
  · rw [complete_of_link web link, check_eq_ok, trimmed, String.toList_ofList, trim_trim]
    exact ⟨by rw [trimmed, String.toList_ofList, trim_trim], web, host, checked⟩
  · have text : (complete u).toList = "https://".toList ++ trim u.toList := by
      rw [complete_of_not_link link, String.toList_append]
      exact congrArg _ String.toList_ofList
    have some : trim u.toList ≠ [] := fun none => absurd (none ▸ web) (by decide)
    obtain ⟨newHost, plain, -, second⟩ := reading_completed web host
    rw [check_eq_ok, trimmed, text, trim_completed some, second]
    refine ⟨by rw [← text, String.ofList_toList], .inr rfl, by simp, checkAuthority_plain fun c mem => ?_⟩
    rcases List.mem_append.mp mem with mem | mem
    · exact plain c mem
    · rw [List.mem_singleton.mp mem]
      decide

theorem url_fill_completed {url : String} (accepted : check url = .ok url) (screenshot : Bool) :
    ∃ o, fill (Json.merge Pipeline.pageOptions
      [("url", .str url), ("screenshot", .bool screenshot)]) = .ok o ∧ o.url = url := by
  have present : Json.get? "url" (Json.merge Pipeline.pageOptions
      [("url", .str url), ("screenshot", .bool screenshot)]) = some (.str url) := rfl
  refine ⟨{ url, screenshot, ultraPremium := true }, ?_, rfl⟩
  unfold fill
  rw [Field.all, List.foldl_cons, fillField_of_readUrl present (readUrl_of_check accepted)]
  rfl

/-- **The address that a run fetches** is the one stored for a scrape of its own if and only if that begins
with its scheme as it is read.  Any other gets a second scheme, and the first one names the host; the
scraper takes what comes out without an issue. -/
theorem url_completed {fields : List (String × Json)} {o : ScrapeOptions} {u : String}
    (accepted : fill fields = .ok o) (given : Json.get? "url" fields = some (.str u)) :
    o.url = trimmed u ∧
    (complete u = o.url ↔ (reading o.url.toList).1 ++ "://".toList <+: o.url.toList) ∧
    (complete u ≠ o.url → complete u = "https://" ++ o.url ∧
      ∃ host, (clean host).map Char.toLower = (reading o.url.toList).1 ∧
        reading (complete u).toList = ("https".toList, host ++ [':'])) ∧
    ∀ screenshot, ∃ o', fill (Json.merge Pipeline.pageOptions
      [("url", .str (complete u)), ("screenshot", .bool screenshot)]) = .ok o' ∧ o'.url = complete u := by
  obtain ⟨v, present, read⟩ := url_fill accepted
  obtain rfl : v = .str u := Option.some.inj (present.symm.trans given)
  have checked := check_of_readUrl read
  obtain ⟨stored, web, host, -⟩ := check_eq_ok.mp checked
  have text : o.url.toList = trim u.toList := by rw [stored, trimmed, String.toList_ofList]
  by_cases link : (reading (trim u.toList)).1 ++ "://".toList <+: trim u.toList
  · have kept : complete u = o.url := (complete_of_link web link).trans stored.symm
    exact ⟨stored, iff_of_true kept (text ▸ link), fun changed => absurd kept changed,
      url_fill_completed (check_complete checked)⟩
  · have changed : complete u = "https://" ++ o.url := stored ▸ complete_of_not_link link
    have longer : complete u ≠ o.url := fun same => by
      have lengths := congrArg String.length (changed.symm.trans same)
      rw [String.length_append] at lengths
      exact absurd lengths (by simp)
    obtain ⟨newHost, -, named, second⟩ := reading_completed web host
    refine ⟨stored, iff_of_false longer (text ▸ link), fun _ => ⟨changed, newHost, text ▸ named, ?_⟩,
      url_fill_completed (check_complete checked)⟩
    rw [changed, String.toList_append, text]
    exact second

/-- a scheme in capital letters is accepted, and becomes the name of a host -/
theorem url_completed_capitals :
    fill [("url", .str "HTTP://example.com")] = .ok { url := "HTTP://example.com" } ∧
      complete "HTTP://example.com" = "https://HTTP://example.com" := by
  have accepted : fill [("url", .str "HTTP://example.com")] = .ok { url := "HTTP://example.com" } := by
    decide
  obtain ⟨-, same, changed, -⟩ := url_completed accepted rfl
  exact ⟨accepted, (changed fun kept => absurd (same.mp kept) (by decide)).1⟩

end SnippetStudio.Address
