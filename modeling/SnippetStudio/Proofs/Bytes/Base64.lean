import SnippetStudio.Bytes.Base64
import SnippetStudio.Text.Blank

/-!
# Base 64 read back

`decode` reads what `encode` has written.  Three bytes are four letters (`decodeFrom_four`), and the one or
two bytes at the end are told by the padding behind them.

* `encode_plain`   a text of base 64 is plain ASCII;
* `decode_encode`  **the bytes come back**.
-/

namespace SnippetStudio.Base64

theorem letter_plain {n : Nat} (h : n < 64) :
    letter n ≠ '=' ∧ (letter n).toNat < 0x80 ∧ Text.isBlank (letter n) = false := by
  have all : ∀ m ∈ List.range 64,
      letter m ≠ '=' ∧ (letter m).toNat < 0x80 ∧ Text.isBlank (letter m) = false := by decide
  exact all n (List.mem_range.2 h)

/-- a text of base 64 is plain ASCII without blanks -/
theorem encode_plain (bs : Bytes) : ∀ c ∈ encode bs, c.toNat < 0x80 ∧ Text.isBlank c = false := by
  have pad : '='.toNat < 0x80 ∧ Text.isBlank '=' = false := by decide
  have one {n : Nat} (h : n < 64) := (letter_plain h).2
  induction bs using encode.induct with
  | case1 => exact fun c hc => absurd hc List.not_mem_nil
  | case2 a =>
    have ha := a.toNat_lt
    simp only [encode, List.forall_mem_cons]
    exact ⟨one (by omega), one (by omega), pad, pad, nofun⟩
  | case3 a b =>
    have ha := a.toNat_lt
    have hb := b.toNat_lt
    simp only [encode, List.forall_mem_cons]
    exact ⟨one (by omega), one (by omega), one (by omega), pad, nofun⟩
  | case4 a b c r ih =>
    have ha := a.toNat_lt
    have hb := b.toNat_lt
    have hc := c.toNat_lt
    simp only [encode, List.forall_mem_cons]
    exact ⟨one (by omega), one (by omega), one (by omega), one (by omega), ih⟩

section

variable {a b c d : Nat} (full pads : Nat) (s : List Char)

theorem decodeFrom_zero (ha : a < 64) :
    decodeFrom full .zero pads (letter a :: s) = decodeFrom full (.one a) 0 s := by
  rw [decodeFrom, if_neg (letter_plain ha).1, value?_letter ha]

theorem decodeFrom_one (hb : b < 64) :
    decodeFrom full (.one a) pads (letter b :: s) = decodeFrom full (.two a b) 0 s := by
  rw [decodeFrom, if_neg (letter_plain hb).1, value?_letter hb]

theorem decodeFrom_two (hc : c < 64) :
    decodeFrom full (.two a b) pads (letter c :: s) = decodeFrom full (.three a b c) 0 s := by
  rw [decodeFrom, if_neg (letter_plain hc).1, value?_letter hc]

theorem decodeFrom_three (hd : d < 64) :
    decodeFrom full (.three a b c) pads (letter d :: s) = do
      let rest ← decodeFrom (full + 1) .zero 0 s
      return UInt8.ofNat (a * 4 + b / 16) :: UInt8.ofNat (b % 16 * 16 + c / 4) ::
        UInt8.ofNat (c % 4 * 64 + d) :: rest := by
  rw [decodeFrom, if_neg (letter_plain hd).1, value?_letter hd]

/-- four letters are three bytes -/
theorem decodeFrom_four (ha : a < 64) (hb : b < 64) (hc : c < 64) (hd : d < 64) :
    decodeFrom full .zero pads (letter a :: letter b :: letter c :: letter d :: s) = do
      let rest ← decodeFrom (full + 1) .zero 0 s
      return UInt8.ofNat (a * 4 + b / 16) :: UInt8.ofNat (b % 16 * 16 + c / 4) ::
        UInt8.ofNat (c % 4 * 64 + d) :: rest := by
  rw [decodeFrom_zero _ _ _ ha, decodeFrom_one _ _ _ hb, decodeFrom_two _ _ _ hc,
    decodeFrom_three _ _ _ hd]

end

theorem ofNat_eq {n : Nat} {a : UInt8} (h : n = a.toNat) : UInt8.ofNat n = a := by
  rw [h, UInt8.ofNat_toNat]

theorem decodeFrom_encode (full pads : Nat) (bs : Bytes) :
    decodeFrom full .zero pads (encode bs) = .ok bs := by
  induction bs using encode.induct generalizing full pads with
  | case1 => rfl
  | case2 a =>
    have ha := a.toNat_lt
    rw [encode, decodeFrom_zero _ _ _ (by omega), decodeFrom_one _ _ _ (by omega)]
    show Except.ok [UInt8.ofNat _] = Except.ok [a]
    rw [ofNat_eq (a := a) (by omega)]
  | case3 a b =>
    have ha := a.toNat_lt
    have hb := b.toNat_lt
    rw [encode, decodeFrom_zero _ _ _ (by omega), decodeFrom_one _ _ _ (by omega),
      decodeFrom_two _ _ _ (by omega)]
    show Except.ok [UInt8.ofNat _, UInt8.ofNat _] = Except.ok [a, b]
    rw [ofNat_eq (a := a) (by omega), ofNat_eq (a := b) (by omega)]
  | case4 a b c r ih =>
    have ha := a.toNat_lt
    have hb := b.toNat_lt
    have hc := c.toNat_lt
    rw [encode, decodeFrom_four _ _ _ (by omega) (by omega) (by omega) (by omega), ih,
      ofNat_eq (a := a) (by omega), ofNat_eq (a := b) (by omega), ofNat_eq (a := c) (by omega)]
    rfl

/-- **The bytes come back.** -/
theorem decode_encode (bs : Bytes) : decode (encode bs) = .ok bs := by
  have ascii : (encode bs).all fun c => c.toNat < 0x80 :=
    List.all_eq_true.mpr fun c hc => decide_eq_true (encode_plain bs c hc).1
  rw [decode, if_pos ascii]
  exact decodeFrom_encode 0 0 bs

end SnippetStudio.Base64
