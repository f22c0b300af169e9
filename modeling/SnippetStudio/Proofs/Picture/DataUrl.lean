import Mathlib.Data.List.TakeWhile
import SnippetStudio.Picture.DataUrl
import SnippetStudio.Proofs.Bytes.Base64
import SnippetStudio.Proofs.Text.Reading

/-!
# Data URLs read back

A URL is written for any media type, but only where the type consists of two names with a stroke between
them (`IsMediaType`) it is read back.  Any other type stays in front of the parameters, and what begins
like this is no data URL.

* `isMediaType_iff`  such types are those that are met from the front to the end;
* `decode_write`     **bytes and media type come back**;
* `decode_unnamed`   the URL of any other type is refused;
* `decode_ofFile`    both in one, for a file that may be written smaller;
* `decode_kept`      **a file that is not written smaller comes back**, also from between blanks.
-/

namespace SnippetStudio.DataUrl

open Text

/-- two names with a stroke between them -/
def IsMediaType (m : List Char) : Prop :=
  ∃ a b, a ≠ [] ∧ b ≠ [] ∧ (∀ c ∈ a, isToken c) ∧ (∀ c ∈ b, isToken c) ∧ m = a ++ '/' :: b

/-! ## The media type at the front -/

/-- the text goes on with something else than a name -/
def Stops (r : List Char) : Prop := ∀ c ∈ r.head?, isToken c = false

theorem mediaType?_append {m r : List Char} (hm : IsMediaType m) (hr : Stops r) :
    mediaType? (m ++ r) = some (m, r) := by
  obtain ⟨a, b, ha, hb, as, bs, rfl⟩ := hm
  have stroke : Stops ('/' :: (b ++ r)) := by
    rintro c ⟨⟩
    decide
  rw [List.append_assoc, List.cons_append, mediaType?, Text.takeWhile_run as stroke,
    Text.dropWhile_run as stroke]
  obtain ⟨x, a, rfl⟩ := List.exists_cons_of_ne_nil ha
  obtain ⟨y, b, rfl⟩ := List.exists_cons_of_ne_nil hb
  simp only [Text.takeWhile_run bs hr, Text.dropWhile_run bs hr]

theorem of_mediaType? {s m r : List Char} (h : mediaType? s = some (m, r)) :
    s = m ++ r ∧ IsMediaType m := by
  have split (s : List Char) := List.takeWhile_append_dropWhile (p := isToken) (l := s)
  unfold mediaType? at h
  split at h
  · next a as r' first rest =>
    split at h
    · next b bs second =>
      obtain ⟨rfl, rfl⟩ := Prod.mk.inj (Option.some.inj h)
      refine ⟨?_, a :: as, b :: bs, List.cons_ne_nil _ _, List.cons_ne_nil _ _, ?_, ?_, rfl⟩
      · rw [← second, List.append_assoc]
        show s = a :: as ++ '/' :: (r'.takeWhile isToken ++ r'.dropWhile isToken)
        rw [split r', ← first, ← rest, split s]
      · exact fun c hc => List.mem_takeWhile_imp (first ▸ hc)
      · exact fun c hc => List.mem_takeWhile_imp (second ▸ hc)
    · cases h
  · cases h

theorem isMediaType_iff {m : List Char} : IsMediaType m ↔ mediaType? m = some (m, []) := by
  refine ⟨fun h => ?_, fun h => (of_mediaType? h).2⟩
  have last : mediaType? (m ++ []) = some (m, []) := mediaType?_append h nofun
  rwa [List.append_nil] at last

instance (m : List Char) : Decidable (IsMediaType m) := decidable_of_iff _ isMediaType_iff.symm

theorem IsMediaType.no_semicolon {m : List Char} (h : IsMediaType m) : ';' ∉ m := by
  obtain ⟨a, b, -, -, as, bs, rfl⟩ := h
  have apart : isToken ';' = false := by decide
  intro mem
  rcases List.mem_append.mp mem with mem | mem
  · exact absurd (as _ mem) (by simp [apart])
  · rcases List.mem_cons.mp mem with eq | mem
    · cases eq
    · exact absurd (bs _ mem) (by simp [apart])

/-! ## Reading what was written -/

variable {bytes : Bytes} {m : String}

/-- the parameter before the data -/
def mark : List Char := ";base64".toList

/-- what stands behind the media type -/
def tail (bytes : Bytes) : List Char := mark ++ ',' :: Base64.encode bytes

theorem toList_write : (write bytes m).toList = scheme ++ (m.toList ++ tail bytes) := by
  have marked : ";base64,".toList = mark ++ [','] := by decide
  rw [write, String.toList_ofList, marked, tail]
  simp only [List.append_assoc, List.singleton_append]

theorem trim_write : trim (write bytes m).toList = (write bytes m).toList := by
  obtain ⟨s, e, last, plain⟩ : ∃ s e, ',' :: Base64.encode bytes = s ++ [e] ∧ isBlank e = false := by
    rcases List.eq_nil_or_concat (Base64.encode bytes) with none | ⟨s, e, ends⟩
    · exact ⟨[], ',', by rw [none, List.nil_append], by decide⟩
    · have mem : e ∈ Base64.encode bytes := by simp [ends]
      exact ⟨',' :: s, e, by simp [ends], (Base64.encode_plain bytes e mem).2⟩
  obtain ⟨front, begins⟩ : ∃ front, scheme = 'd' :: front := ⟨"ata:".toList, by decide⟩
  have ends : (write bytes m).toList = 'd' :: ((front ++ (m.toList ++ (mark ++ s))) ++ [e]) := by
    rw [toList_write, tail, last, begins]
    simp only [List.append_assoc, List.cons_append]
  rw [ends]
  exact trim_of_ends (by decide) plain

/-- the parameters and the data of a text behind its media type -/
def rest? (mime : Option (List Char)) (s : List Char) :
    Option (Option (List Char) × List Char × List Char) :=
  match cutOnce ',' s with
  | (params, some data) =>
    if params.isEmpty || params.head? == some ';' then some (mime, params, data) else none
  | (_, none) => none

theorem parts?_named {s n r : List Char} (h : mediaType? s = some (n, r)) :
    parts? (scheme ++ s) = rest? (some n) r := by
  simp only [parts?, after?_append, bind, Option.bind, h]
  rfl

theorem parts?_unnamed {s : List Char} (h : mediaType? s = none) :
    parts? (scheme ++ s) = rest? none s := by
  simp only [parts?, after?_append, bind, Option.bind, h]
  rfl

/-- **Bytes and media type come back.** -/
theorem decode_write (h : IsMediaType m.toList) : decode (write bytes m) = .ok (bytes, m) := by
  have stops : Stops (tail bytes) := by
    rintro c ⟨⟩
    decide
  have read : parts? (trim (write bytes m).toList) =
      some (some m.toList, mark, Base64.encode bytes) := by
    rw [trim_write, toList_write, parts?_named (mediaType?_append h stops)]
    rfl
  have marked : contains mark mark = true := by decide
  unfold decode
  rw [read]
  refine (if_pos marked).trans ?_
  rw [Base64.decode_encode, Option.getD_some, String.ofList_toList]

/-- a text before the parameters that has no semicolon hides the mark of base 64 -/
theorem unmarked {mime mime' : Option (List Char)} {q p d s : List Char} (nonempty : q ≠ [])
    (plain : ';' ∉ q) (h : rest? mime (q ++ s) = some (mime', p, d)) :
    contains mark p = false := by
  obtain ⟨c, q, rfl⟩ := List.exists_cons_of_ne_nil nonempty
  have first : c ≠ ';' := fun e => plain (e ▸ List.mem_cons_self)
  by_cases comma : c = ','
  · simp only [rest?, List.cons_append, cutOnce, if_pos comma] at h
    cases h
    decide
  · simp only [rest?, List.cons_append, cutOnce, if_neg comma] at h
    split at h
    · next cut =>
      obtain ⟨rfl, -⟩ := Prod.mk.inj cut
      simp [first] at h
    · cases h

theorem decode_unmarked {url : String}
    (h : ∀ x, parts? (trim url.toList) = some x → contains mark x.2.1 = false) :
    ∃ f, decode url = .error f := by
  unfold decode
  cases read : parts? (trim url.toList) with
  | none => exact ⟨_, rfl⟩
  | some x =>
    have plain : contains ";base64".toList x.2.1 = false := h x read
    refine ⟨_, if_neg ?_⟩
    rw [plain]
    exact Bool.false_ne_true

/-- **The URL of any other type is refused.** -/
theorem decode_unnamed (h : ¬IsMediaType m.toList) (plain : ';' ∉ m.toList) (nonempty : m ≠ "") :
    ∃ f, decode (write bytes m) = .error f := by
  refine decode_unmarked fun x read => ?_
  rw [trim_write, toList_write] at read
  cases met : mediaType? (m.toList ++ tail bytes) with
  | none =>
    rw [parts?_unnamed met] at read
    exact unmarked (by simpa using nonempty) plain read
  | some y =>
    obtain ⟨n, r⟩ := y
    obtain ⟨whole, named⟩ := of_mediaType? met
    rw [parts?_named met] at read
    rcases List.append_eq_append_iff.mp whole with ⟨u, rfl, inside⟩ | ⟨q, all, rfl⟩
    · cases u with
      | nil => exact absurd (by simpa using named) h
      | cons c u =>
        have semicolon : ';' = c := (List.cons.inj inside).1
        exact absurd (by simp [← semicolon]) named.no_semicolon
    · refine unmarked ?_ (fun mem => plain (all ▸ List.mem_append_right n mem)) read
      rintro rfl
      rw [List.append_nil] at all
      exact h (all ▸ named)

theorem decode_around {before behind url : String} (before_ : Blanks before.toList)
    (behind_ : Blanks behind.toList) : decode (before ++ url ++ behind) = decode url := by
  have whole : trim (before ++ url ++ behind).toList = trim url.toList := by
    rw [String.toList_append, String.toList_append, List.append_assoc, trim_around before_ behind_]
  rw [decode, decode, whole]

theorem ofFile_of_kept {codec : Codec} {file : Bytes} {compress : Bool}
    (kept : compress = false ∨ ∃ f, codec.reduce file = .error f) :
    ofFile codec file m compress = write file m := by
  unfold ofFile
  rcases kept with rfl | ⟨f, unread⟩
  · rfl
  · rw [unread]
    cases compress <;> rfl

/-- **A file that is not written smaller comes back**, with its media type, whatever blanks are put around
its URL. -/
theorem decode_kept (named : IsMediaType m.toList) {codec : Codec} {file : Bytes} {compress : Bool}
    (kept : compress = false ∨ ∃ f, codec.reduce file = .error f) {before behind : String}
    (before_ : Blanks before.toList) (behind_ : Blanks behind.toList) :
    decode (before ++ ofFile codec file m compress ++ behind) = .ok (file, m) := by
  rw [decode_around before_ behind_, ofFile_of_kept kept]
  exact decode_write named

/-- two bytes that are no picture, with padding at the end -/
theorem decode_kept_unreadable :
    decode ("\n " ++ ofFile .blind [0xFF, 0x3E] "image/svg+xml" ++ "\t") = .ok ([0xFF, 0x3E], "image/svg+xml") :=
  decode_kept (by decide) (.inr ⟨_, rfl⟩) (by decide) (by decide)

theorem begins_ofFile (codec : Codec) (file : Bytes) (m : String) :
    ∃ rest, (ofFile codec file m).toList = scheme ++ rest := by
  unfold ofFile
  split
  · exact ⟨_, toList_write⟩
  · exact ⟨_, toList_write⟩

/-- what a file is read back as: smaller where the codec has made it so, and otherwise only if the media
type is one -/
def readable (codec : Codec) (file : Bytes) (m : String) : Option (Bytes × String) :=
  match codec.reduce file with
  | .ok smaller => some (smaller, "image/jpeg")
  | .error _ => if IsMediaType m.toList then some (file, m) else none

theorem decode_ofFile (codec : Codec) (file : Bytes) (plain : ';' ∉ m.toList) (nonempty : m ≠ "") :
    (decode (ofFile codec file m)).toOption = readable codec file m := by
  have jpeg : IsMediaType "image/jpeg".toList := isMediaType_iff.mpr (by decide)
  unfold ofFile readable
  cases codec.reduce file with
  | ok smaller =>
    simp only [decode_write jpeg]
    rfl
  | error f =>
    by_cases named : IsMediaType m.toList
    · simp only [decode_write named, if_pos named]
      rfl
    · obtain ⟨f, refused⟩ : ∃ f, decode (write file m) = .error f :=
        decode_unnamed named plain nonempty
      simp only [refused, if_neg named]
      rfl

end SnippetStudio.DataUrl
