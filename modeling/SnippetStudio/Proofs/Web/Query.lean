import Mathlib.Data.List.Nodup
import SnippetStudio.Web.Url

/-!
# Queries read back

A character comes back from its bytes in UTF-8, a text from its form, and names and values from a query: what is
put into a URL as its parameters is what the other side reads there.

* `decodeUtf8_encodeChar`    a character and its bytes;
* `decodeForm_encodeForm`    a text and its form;
* `paramsOf_queryText`       **names and values, and their query**;
* `params_withParams`        the parameters of a URL.
-/

namespace SnippetStudio

open Text

/-! ## UTF-8 -/

theorem toList_loop_eq (bs : ByteArray) (i : Nat) (r : List UInt8) :
    ByteArray.toList.loop bs i r = r.reverse ++ bs.data.toList.drop i := by
  induction n : bs.size - i generalizing i r with
  | zero =>
    have behind : bs.data.toList.length ≤ i := by
      rw [Array.length_toList]
      exact Nat.le_of_sub_eq_zero n
    rw [ByteArray.toList.loop, if_neg (by omega), List.drop_eq_nil_of_le behind, List.append_nil]
  | succ n ih =>
    have within : i < bs.data.toList.length := by
      rw [Array.length_toList]
      show i < bs.size
      omega
    have byte : bs.get! i = bs.data.toList[i] := by
      show bs.data.getD i 0 = _
      rw [Array.getElem_toList]
      exact dif_pos within
    rw [ByteArray.toList.loop, if_pos (by omega), ih _ _ (by omega), List.drop_eq_getElem_cons within, byte,
      List.reverse_cons, List.append_assoc]
    rfl

theorem utf8Bytes_singleton (c : Char) : utf8Bytes (String.singleton c) = String.utf8EncodeChar c := by
  rw [utf8Bytes, String.toUTF8_eq_toByteArray, String.toByteArray_singleton, List.utf8Encode_singleton,
    ByteArray.toList, toList_loop_eq, List.reverse_nil, List.nil_append, List.drop_zero]
  simp

namespace Charset

variable {v more low high bits : Nat} {b : UInt8} {bs : Bytes}

theorem decodeUtf8_ascii (h : b.toNat < 0x80) : decodeUtf8 none (b :: bs) =
    Char.ofNat b.toNat :: decodeUtf8 none bs := by
  rw [decodeUtf8, stepUtf8, startUtf8, if_pos h]
  rfl

theorem decodeUtf8_lead (h : 0x80 ≤ b.toNat) (lead : lead? b.toNat = some (more, low, high, bits)) :
    decodeUtf8 none (b :: bs) = decodeUtf8 (some ⟨more, low, high, bits⟩) bs := by
  rw [decodeUtf8, stepUtf8, startUtf8, if_neg (Nat.not_lt.mpr h), lead]
  rfl

theorem decodeUtf8_inside (inside : low ≤ b.toNat ∧ b.toNat ≤ high) (more : Nat) :
    decodeUtf8 (some ⟨more + 2, low, high, bits⟩) (b :: bs) =
      decodeUtf8 (some ⟨more + 1, 0x80, 0xBF, bits * 64 + b.toNat % 64⟩) bs := by
  rw [decodeUtf8, stepUtf8]
  dsimp only
  rw [if_pos inside, if_neg (by omega)]
  rfl

theorem decodeUtf8_last (inside : low ≤ b.toNat ∧ b.toNat ≤ high) :
    decodeUtf8 (some ⟨1, low, high, bits⟩) (b :: bs) =
      Char.ofNat (bits * 64 + b.toNat % 64) :: decodeUtf8 none bs := by
  rw [decodeUtf8, stepUtf8]
  dsimp only
  rw [if_pos inside, if_pos rfl]
  rfl

theorem lead_two (h : 0x80 ≤ v) (h' : v ≤ 0x7FF) :
    lead? (v / 64 % 32 + 192) = some (1, 0x80, 0xBF, v / 64) := by
  rw [lead?, if_pos (by omega)]
  have bits : (v / 64 % 32 + 192) % 32 = v / 64 := by omega
  rw [bits]

theorem lead_three (h : 0x800 ≤ v) (h' : v ≤ 0xFFFF) (valid : v < 0xD800 ∨ 0xDFFF < v) : ∃ low high,
    lead? (v / 4096 % 16 + 224) = some (2, low, high, v / 4096) ∧
      low ≤ v / 64 % 64 + 128 ∧ v / 64 % 64 + 128 ≤ high := by
  obtain first | last | ⟨notFirst, notLast⟩ :
      v / 4096 = 0 ∨ v / 4096 = 13 ∨ v / 4096 ≠ 0 ∧ v / 4096 ≠ 13 := by omega
  · refine ⟨0xA0, 0xBF, ?_, by omega, by omega⟩
    rw [first]
    rfl
  · refine ⟨0x80, 0x9F, ?_, by omega, by omega⟩
    rw [last]
    rfl
  · refine ⟨0x80, 0xBF, ?_, by omega, by omega⟩
    have bits : (v / 4096 % 16 + 224) % 16 = v / 4096 := by omega
    rw [lead?, if_neg (by omega), if_neg (by omega), if_neg (by omega), if_pos (by omega), bits]

theorem lead_four (h : 0x10000 ≤ v) (h' : v ≤ 0x10FFFF) : ∃ low high,
    lead? (v / 262144 % 8 + 240) = some (3, low, high, v / 262144) ∧
      low ≤ v / 4096 % 64 + 128 ∧ v / 4096 % 64 + 128 ≤ high := by
  obtain first | last | ⟨notFirst, notLast⟩ :
      v / 262144 = 0 ∨ v / 262144 = 4 ∨ v / 262144 ≠ 0 ∧ v / 262144 ≠ 4 := by omega
  · refine ⟨0x90, 0xBF, ?_, by omega, by omega⟩
    rw [first]
    rfl
  · refine ⟨0x80, 0x8F, ?_, by omega, by omega⟩
    rw [last]
    rfl
  · refine ⟨0x80, 0xBF, ?_, by omega, by omega⟩
    have bits : (v / 262144 % 8 + 240) % 8 = v / 262144 := by omega
    rw [lead?, if_neg (by omega), if_neg (by omega), if_neg (by omega), if_neg (by omega), if_neg (by omega),
      if_pos (by omega), bits]

theorem toNat_ofNat (h : v < 256) : (UInt8.ofNat v).toNat = v := by
  rw [UInt8.toNat_ofNat']
  exact Nat.mod_eq_of_lt h

theorem decodeUtf8_two (h : 0x80 ≤ v) (h' : v ≤ 0x7FF) (bs : Bytes) :
    decodeUtf8 none (UInt8.ofNat (v / 64 % 32 + 192) :: UInt8.ofNat (v % 64 + 128) :: bs) =
      Char.ofNat v :: decodeUtf8 none bs := by
  have first : (UInt8.ofNat (v / 64 % 32 + 192)).toNat = v / 64 % 32 + 192 := toNat_ofNat (by omega)
  have second : (UInt8.ofNat (v % 64 + 128)).toNat = v % 64 + 128 := toNat_ofNat (by omega)
  have whole : v / 64 * 64 + (v % 64 + 128) % 64 = v := by omega
  rw [decodeUtf8_lead (by omega) (first ▸ lead_two h h'), decodeUtf8_last (by omega), second, whole]

theorem decodeUtf8_three (h : 0x800 ≤ v) (h' : v ≤ 0xFFFF) (valid : v < 0xD800 ∨ 0xDFFF < v) (bs : Bytes) :
    decodeUtf8 none (UInt8.ofNat (v / 4096 % 16 + 224) :: UInt8.ofNat (v / 64 % 64 + 128) ::
      UInt8.ofNat (v % 64 + 128) :: bs) = Char.ofNat v :: decodeUtf8 none bs := by
  have first : (UInt8.ofNat (v / 4096 % 16 + 224)).toNat = v / 4096 % 16 + 224 := toNat_ofNat (by omega)
  have second : (UInt8.ofNat (v / 64 % 64 + 128)).toNat = v / 64 % 64 + 128 := toNat_ofNat (by omega)
  have third : (UInt8.ofNat (v % 64 + 128)).toNat = v % 64 + 128 := toNat_ofNat (by omega)
  have whole : (v / 4096 * 64 + (v / 64 % 64 + 128) % 64) * 64 + (v % 64 + 128) % 64 = v := by omega
  obtain ⟨low, high, lead, above, below⟩ := lead_three h h' valid
  rw [decodeUtf8_lead (by omega) (first ▸ lead), decodeUtf8_inside (by omega) 0,
    decodeUtf8_last (by omega), second, third, whole]

theorem decodeUtf8_four (h : 0x10000 ≤ v) (h' : v ≤ 0x10FFFF) (bs : Bytes) :
    decodeUtf8 none (UInt8.ofNat (v / 262144 % 8 + 240) :: UInt8.ofNat (v / 4096 % 64 + 128) ::
      UInt8.ofNat (v / 64 % 64 + 128) :: UInt8.ofNat (v % 64 + 128) :: bs) =
        Char.ofNat v :: decodeUtf8 none bs := by
  have first : (UInt8.ofNat (v / 262144 % 8 + 240)).toNat = v / 262144 % 8 + 240 := toNat_ofNat (by omega)
  have second : (UInt8.ofNat (v / 4096 % 64 + 128)).toNat = v / 4096 % 64 + 128 := toNat_ofNat (by omega)
  have third : (UInt8.ofNat (v / 64 % 64 + 128)).toNat = v / 64 % 64 + 128 := toNat_ofNat (by omega)
  have fourth : (UInt8.ofNat (v % 64 + 128)).toNat = v % 64 + 128 := toNat_ofNat (by omega)
  have whole : ((v / 262144 * 64 + (v / 4096 % 64 + 128) % 64) * 64 + (v / 64 % 64 + 128) % 64) * 64 +
      (v % 64 + 128) % 64 = v := by omega
  obtain ⟨low, high, lead, above, below⟩ := lead_four h h'
  rw [decodeUtf8_lead (by omega) (first ▸ lead), decodeUtf8_inside (by omega) 1,
    decodeUtf8_inside (by omega) 0, decodeUtf8_last (by omega), second, third, fourth, whole]

/-- a character is read back from its bytes -/
theorem decodeUtf8_encodeChar (c : Char) (bs : Bytes) :
    decodeUtf8 none (String.utf8EncodeChar c ++ bs) = c :: decodeUtf8 none bs := by
  obtain ⟨v, toNat⟩ : ∃ v, c.val.toNat = v := ⟨_, rfl⟩
  have valid : v < 0xD800 ∨ 0xDFFF < v ∧ v < 0x110000 := toNat ▸ c.valid
  have back : Char.ofNat v = c := toNat ▸ Char.ofNat_toNat c
  rw [String.utf8EncodeChar, toNat]
  refine Eq.trans ?_ (congrArg (· :: decodeUtf8 none bs) back)
  split
  · next one =>
    have first : (UInt8.ofNat v).toNat = v := toNat_ofNat (by omega)
    rw [List.singleton_append, decodeUtf8_ascii (by omega), first]
  · split
    · next two => exact decodeUtf8_two (by omega) two bs
    · split
      · next three => exact decodeUtf8_three (by omega) three (by omega) bs
      · exact decodeUtf8_four (by omega) (by omega) bs

theorem decodeUtf8_bytes (s : List Char) : decodeUtf8 none (s.flatMap String.utf8EncodeChar) = s := by
  induction s with
  | nil => rfl
  | cons c s ih => rw [List.flatMap_cons, decodeUtf8_encodeChar, ih]

end Charset

/-! ## Forms -/

namespace Percent

variable {c : Char}

theorem hexDigit_lt : ∀ n < 16, isHex (hexDigit n) = true ∧ hexValue (hexDigit n) = n ∧
    hexDigit n ∉ ['+', '&', '='] := by
  decide

/-- a plus sign stands for a blank -/
def spaced (c : Char) : Char := if c == '+' then ' ' else c

theorem map_spaced_byte (b : UInt8) : (byte b).map spaced = byte b := by
  have kept (n : Nat) (h : n < 16) : spaced (hexDigit n) = hexDigit n := by
    have other : hexDigit n ≠ '+' := fun e => (hexDigit_lt n h).2.2 (e ▸ List.mem_cons_self)
    rw [spaced, if_neg (by simpa using other)]
  have size := b.toNat_lt
  rw [byte, List.map_cons, List.map_cons, List.map_singleton, kept _ (by omega), kept _ (by omega)]
  rfl

theorem bytes_byte (b : UInt8) (s : List Char) : bytes (byte b ++ s) = b :: bytes s := by
  have size := b.toNat_lt
  obtain ⟨first, high, -⟩ := hexDigit_lt (b.toNat / 16) (by omega)
  obtain ⟨second, low, -⟩ := hexDigit_lt (b.toNat % 16) (by omega)
  show bytes ('%' :: hexDigit (b.toNat / 16) :: hexDigit (b.toNat % 16) :: s) = _
  rw [bytes, first, second, high, low, Nat.div_add_mod, UInt8.ofNat_toNat]
  rfl

theorem bytes_flatMap_byte (bs : Bytes) (s : List Char) :
    bytes ((bs.flatMap byte).map spaced ++ s) = bs ++ bytes s := by
  induction bs with
  | nil => rfl
  | cons b bs ih =>
    rw [List.flatMap_cons, List.map_append, map_spaced_byte, List.append_assoc, bytes_byte, ih]
    rfl

theorem bytes_cons (h : c ≠ '%') (s : List Char) : bytes (c :: s) = String.utf8EncodeChar c ++ bytes s := by
  rw [bytes, utf8Bytes_singleton]
  rintro a b r rfl
  exact absurd rfl h

theorem isPlain_ne {d : Char} (plain : isPlain c = true) (other : isPlain d = false) : c ≠ d := by
  rintro rfl
  rw [plain] at other
  cases other

/-- a character in a form -/
def formed (c : Char) : List Char := if c == ' ' then ['+'] else if isPlain c then [c] else encodeChar c

theorem bytes_formed (c : Char) (s : List Char) :
    bytes ((formed c).map spaced ++ s) = String.utf8EncodeChar c ++ bytes s := by
  unfold formed
  split
  · next blank =>
    obtain rfl : c = ' ' := by simpa using blank
    exact bytes_cons (by decide) s
  · split
    · next plain =>
      have kept : spaced c = c := by
        rw [spaced, if_neg]
        simpa using isPlain_ne plain (d := '+') (by decide)
      rw [List.map_singleton, kept]
      exact bytes_cons (isPlain_ne plain (by decide)) s
    · rw [encodeChar, bytes_flatMap_byte, utf8Bytes_singleton]

theorem bytes_encodeForm (s : List Char) :
    bytes ((encodeForm s).map spaced) = s.flatMap String.utf8EncodeChar := by
  induction s with
  | nil => rw [encodeForm, List.flatMap_nil, List.map_nil, bytes, List.flatMap_nil]
  | cons c s ih =>
    show bytes ((formed c ++ encodeForm s).map spaced) = _
    rw [List.map_append, bytes_formed, ih, List.flatMap_cons]

/-- what is written as a form is read back -/
theorem decodeForm_encodeForm (s : List Char) : decodeForm (encodeForm s) = s := by
  show Charset.decodeUtf8 none (bytes ((encodeForm s).map spaced)) = s
  rw [bytes_encodeForm, Charset.decodeUtf8_bytes]

theorem not_mem_byte {d : Char} (h : d ∈ ['&', '=']) (b : UInt8) : d ∉ byte b := by
  have digit (n : Nat) (lt : n < 16) : d ≠ hexDigit n := by
    rintro rfl
    exact (hexDigit_lt n lt).2.2 (List.mem_cons_of_mem _ h)
  have size := b.toNat_lt
  have sign : d ≠ '%' := by
    rintro rfl
    exact absurd h (by decide)
  rw [byte, List.mem_cons, List.mem_cons, List.mem_singleton]
  exact not_or.mpr ⟨sign, not_or.mpr ⟨digit _ (by omega), digit _ (by omega)⟩⟩

theorem not_mem_encodeForm {d : Char} (h : d ∈ ['&', '=']) (s : List Char) : d ∉ encodeForm s := by
  obtain ⟨sign, other⟩ : isPlain d = false ∧ d ≠ '+' := by
    rcases List.mem_pair.mp h with rfl | rfl
    · exact ⟨by decide, by decide⟩
    · exact ⟨by decide, by decide⟩
  rw [encodeForm, List.mem_flatMap]
  rintro ⟨c, -, mem⟩
  change d ∈ formed c at mem
  unfold formed at mem
  split at mem
  · exact other (List.mem_singleton.mp mem)
  · split at mem
    · next plain => exact isPlain_ne plain sign (List.mem_singleton.mp mem).symm
    · obtain ⟨b, -, there⟩ := List.mem_flatMap.mp mem
      exact not_mem_byte h b there

end Percent

/-! ## Queries -/

namespace Url

/-- a name and its value in a query -/
def piece (p : String × String) : List Char :=
  Percent.encodeForm p.1.toList ++ '=' :: Percent.encodeForm p.2.toList

theorem toList_queryText (ps : List (String × String)) : (queryText ps).toList = glue ['&'] (ps.map piece) := by
  rw [queryText, String.toList_intercalate, List.map_map, glue_eq_intercalate]
  congr 1
  exact List.map_congr_left fun p _ => String.toList_ofList

theorem read_piece (p : String × String) : piece p ≠ [] ∧ '&' ∉ piece p ∧
    cutOnce '=' (piece p) = (Percent.encodeForm p.1.toList, some (Percent.encodeForm p.2.toList)) := by
  have free (s : List Char) : '&' ∉ Percent.encodeForm s := Percent.not_mem_encodeForm (by decide) s
  refine ⟨List.append_ne_nil_of_right_ne_nil _ (List.cons_ne_nil _ _), fun mem => ?_, ?_⟩
  · rcases List.mem_append.mp mem with name | value
    · exact free _ name
    · rcases List.mem_cons.mp value with sign | value
      · exact absurd sign (by decide)
      · exact free _ value
  · exact cutOnce_append (Percent.not_mem_encodeForm (by decide) _)

/-- **A query is read back**: its names and values, those of one name put together. -/
theorem paramsOf_queryText (ps : List (String × String)) : paramsOf (queryText ps) = grouped ps := by
  unfold paramsOf
  extract_lets read
  have piece_read (p : String × String) : read (piece p) = some p := by
    obtain ⟨some, -, cut⟩ := read_piece p
    simp only [read]
    rw [if_neg (by simpa using some), cut, Option.getD_some, Percent.decodeForm_encodeForm,
      Percent.decodeForm_encodeForm, String.ofList_toList, String.ofList_toList]
  rw [toList_queryText]
  cases ps with
  | nil => rfl
  | cons p ps =>
    have some : (p :: ps).map piece ≠ [] := List.cons_ne_nil _ _
    have free : ∀ part ∈ (p :: ps).map piece, '&' ∉ part :=
      List.forall_mem_map.mpr fun p _ => (read_piece p).2.1
    rw [cut_glue some, flatMap_cut free, List.filterMap_map]
    congr 1
    exact (List.filterMap_congr fun p _ => piece_read p).trans List.filterMap_some

theorem place_of_new {p : String × String} {ps : List (String × String)} (h : p.1 ∉ ps.map Prod.fst) :
    place p ps = ps ++ [p] := by
  induction ps with
  | nil => rfl
  | cons q ps ih =>
    rw [List.map_cons, List.mem_cons, not_or] at h
    have other : (q.1 == p.1) = false := by simpa using Ne.symm h.1
    rw [place, other, Bool.false_and, if_neg Bool.false_ne_true, ih h.2, List.cons_append]

theorem foldl_place {qs ps : List (String × String)} (h : ((qs ++ ps).map Prod.fst).Nodup) :
    ps.foldl (fun qs p => place p qs) qs = qs ++ ps := by
  induction ps generalizing qs with
  | nil => exact (List.append_nil qs).symm
  | cons p ps ih =>
    have new : p.1 ∉ qs.map Prod.fst := by
      rw [List.map_append, List.map_cons, List.nodup_middle, List.nodup_cons] at h
      exact fun mem => h.1 (List.mem_append_left _ mem)
    rw [List.foldl_cons, place_of_new new, ih, List.append_assoc]
    · rfl
    · rwa [List.append_assoc]

/-- parameters of different names stay as they are -/
theorem grouped_of_nodup {ps : List (String × String)} (h : (ps.map Prod.fst).Nodup) : grouped ps = ps :=
  foldl_place h

theorem params_withParams (u : Url) {ps : List (String × String)} (h : (ps.map Prod.fst).Nodup) :
    (u.withParams ps).params = ps := by
  have query : (u.withParams ps).query.getD "" = queryText ps := by
    cases ps <;> rfl
  rw [params, query, paramsOf_queryText, grouped_of_nodup h]

end Url

end SnippetStudio
