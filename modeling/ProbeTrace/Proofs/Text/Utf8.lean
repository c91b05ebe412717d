import Mathlib.Tactic.SplitIfs
import ProbeTrace.Text.Utf8

/-!
# Decoding of encoded text

Decoding gives back what was encoded, character by character. The bounds on the
second byte leave out overlong forms and surrogates, which no character has.
-/

set_option autoImplicit false

namespace ProbeTrace.Text.Utf8

theorem toNat_ofNat {n : Nat} (h : n < 256) : (UInt8.ofNat n).toNat = n :=
  UInt8.toNat_ofNat_of_lt' h

/-- The leading byte of a number, its bounds tested on the number. -/
theorem lead?_ofNat {n : Nat} (h : n < 256) :
    lead? (UInt8.ofNat n) =
      if n < 0x80 then some ⟨n, 0, 0x80, 0xBF⟩
      else if n < 0xC2 then none
      else if n < 0xE0 then some ⟨n - 0xC0, 1, 0x80, 0xBF⟩
      else if n = 0xE0 then some ⟨0, 2, 0xA0, 0xBF⟩
      else if n = 0xED then some ⟨13, 2, 0x80, 0x9F⟩
      else if n < 0xF0 then some ⟨n - 0xE0, 2, 0x80, 0xBF⟩
      else if n = 0xF0 then some ⟨0, 3, 0x90, 0xBF⟩
      else if n < 0xF4 then some ⟨n - 0xF0, 3, 0x80, 0xBF⟩
      else if n = 0xF4 then some ⟨4, 3, 0x80, 0x8F⟩
      else none := by
  simp only [lead?, UInt8.lt_iff_toNat_lt, ← UInt8.toNat_inj, toNat_ofNat h, UInt8.reduceToNat]

theorem lead?_one {n : Nat} (h : n < 0x80) :
    lead? (UInt8.ofNat n) = some ⟨n, 0, 0x80, 0xBF⟩ := by
  rw [lead?_ofNat (by omega), if_pos h]

theorem lead?_two {n : Nat} (hlow : 0xC2 ≤ n) (hhigh : n ≤ 0xDF) :
    lead? (UInt8.ofNat n) = some ⟨n - 0xC0, 1, 0x80, 0xBF⟩ := by
  rw [lead?_ofNat (by omega), if_neg (by omega), if_neg (by omega), if_pos (by omega)]

theorem lead?_three {n : Nat} (hlow : 0xE0 ≤ n) (hhigh : n ≤ 0xEF) :
    lead? (UInt8.ofNat n) = some ⟨n - 0xE0, 2, if n = 0xE0 then 0xA0 else 0x80,
      if n = 0xED then 0x9F else 0xBF⟩ := by
  rw [lead?_ofNat (by omega), if_neg (by omega), if_neg (by omega), if_neg (by omega)]
  by_cases hfirst : n = 0xE0
  · subst hfirst
    rfl
  · by_cases hsurrogate : n = 0xED
    · subst hsurrogate
      rfl
    · rw [if_neg hfirst, if_neg hsurrogate, if_pos (by omega), if_neg hfirst, if_neg hsurrogate]

theorem lead?_four {n : Nat} (hlow : 0xF0 ≤ n) (hhigh : n ≤ 0xF4) :
    lead? (UInt8.ofNat n) = some ⟨n - 0xF0, 3, if n = 0xF0 then 0x90 else 0x80,
      if n = 0xF4 then 0x8F else 0xBF⟩ := by
  rw [lead?_ofNat (by omega), if_neg (by omega), if_neg (by omega), if_neg (by omega),
    if_neg (by omega), if_neg (by omega), if_neg (by omega)]
  by_cases hfirst : n = 0xF0
  · subst hfirst
    rfl
  · by_cases hlast : n = 0xF4
    · subst hlast
      rfl
    · rw [if_neg hfirst, if_pos (by omega), if_neg hfirst, if_neg hlast]

/-- A byte within bounds adds its six bits. -/
theorem following_cons (n bits x : Nat) {low high : UInt8} (rest : Bytes)
    (hlow : low.toNat ≤ x % 64 + 0x80) (hhigh : x % 64 + 0x80 ≤ high.toNat) :
    following (n + 1) low high bits (UInt8.ofNat (x % 64 + 0x80) :: rest) =
      following n 0x80 0xBF (64 * bits + x % 64) rest := by
  have hx : (UInt8.ofNat (x % 64 + 0x80)).toNat = x % 64 + 0x80 :=
    toNat_ofNat (by omega)
  have hbounds : low ≤ UInt8.ofNat (x % 64 + 0x80) ∧ UInt8.ofNat (x % 64 + 0x80) ≤ high := by
    rw [UInt8.le_iff_toNat_le, UInt8.le_iff_toNat_le, hx]
    exact ⟨hlow, hhigh⟩
  rw [following, if_pos hbounds, hx, Nat.add_sub_cancel]

theorem following_tail (n bits x : Nat) (rest : Bytes) :
    following (n + 1) 0x80 0xBF bits (UInt8.ofNat (x % 64 + 0x80) :: rest) =
      following n 0x80 0xBF (64 * bits + x % 64) rest := by
  have hhigh : x % 64 + 0x80 ≤ 0xBF := by omega
  exact following_cons n bits x rest (Nat.le_add_left 0x80 _) hhigh

theorem next_one {v : Nat} (rest : Bytes) (h : v ≤ 0x7F) :
    next (UInt8.ofNat v) rest = (some (Char.ofNat v), rest) := by
  simp only [next, lead?_one (Nat.lt_succ_of_le h), following]

theorem next_two {v : Nat} (rest : Bytes) (hlow : 0x7F < v) (hhigh : v ≤ 0x7FF) :
    next (UInt8.ofNat (v / 64 % 0x20 + 0xC0)) (UInt8.ofNat (v % 0x40 + 0x80) :: rest) =
      (some (Char.ofNat v), rest) := by
  have hv : 64 * (v / 64 % 32 + 0xC0 - 0xC0) + v % 64 = v := by omega
  rw [next, lead?_two (by omega) (by omega)]
  simp only [following_tail]
  rw [hv, following]

theorem next_three {v : Nat} (rest : Bytes) (hlow : 0x7FF < v) (hhigh : v ≤ 0xFFFF)
    (hvalid : v < 0xD800 ∨ 0xDFFF < v) :
    next (UInt8.ofNat (v / 4096 % 0x10 + 0xE0))
      (UInt8.ofNat (v / 64 % 0x40 + 0x80) :: UInt8.ofNat (v % 0x40 + 0x80) :: rest) =
      (some (Char.ofNat v), rest) := by
  have hv : 64 * (64 * (v / 4096 % 16 + 0xE0 - 0xE0) + v / 64 % 64) + v % 64 = v := by omega
  rw [next, lead?_three (by omega) (by omega)]
  dsimp only
  rw [following_cons, following_tail, hv, following]
  · split_ifs
    · have hsecond : 0xA0 ≤ v / 64 % 64 + 0x80 := by omega
      exact hsecond
    · exact Nat.le_add_left 0x80 _
  · split_ifs
    · have hsecond : v / 64 % 64 + 0x80 ≤ 0x9F := by omega
      exact hsecond
    · have hsecond : v / 64 % 64 + 0x80 ≤ 0xBF := by omega
      exact hsecond

theorem next_four {v : Nat} (rest : Bytes) (hlow : 0xFFFF < v) (hhigh : v < 0x110000) :
    next (UInt8.ofNat (v / 262144 % 0x08 + 0xF0))
      (UInt8.ofNat (v / 4096 % 0x40 + 0x80) :: UInt8.ofNat (v / 64 % 0x40 + 0x80) ::
        UInt8.ofNat (v % 0x40 + 0x80) :: rest) =
      (some (Char.ofNat v), rest) := by
  have hv : 64 * (64 * (64 * (v / 262144 % 8 + 0xF0 - 0xF0) + v / 4096 % 64) + v / 64 % 64) +
      v % 64 = v := by omega
  rw [next, lead?_four (by omega) (by omega)]
  dsimp only
  rw [following_cons, following_tail, following_tail, hv, following]
  · split_ifs
    · have hsecond : 0x90 ≤ v / 4096 % 64 + 0x80 := by omega
      exact hsecond
    · exact Nat.le_add_left 0x80 _
  · split_ifs
    · have hsecond : v / 4096 % 64 + 0x80 ≤ 0x8F := by omega
      exact hsecond
    · have hsecond : v / 4096 % 64 + 0x80 ≤ 0xBF := by omega
      exact hsecond

theorem sequences_encodeChar (c : Char) (rest : Bytes) :
    sequences (String.utf8EncodeChar c ++ rest) = some c :: sequences rest := by
  have hvalid : c.val.toNat < 0xD800 ∨ 0xDFFF < c.val.toNat ∧ c.val.toNat < 0x110000 := c.valid
  have hchar : Char.ofNat c.val.toNat = c := Char.ofNat_toNat c
  rw [String.utf8EncodeChar]
  generalize c.val.toNat = v at hvalid hchar
  split_ifs with h1 h2 h3
  · rw [List.cons_append, sequences, next_one _ h1, hchar]
    rfl
  · rw [List.cons_append, List.cons_append, sequences, next_two _ (by omega) h2, hchar]
    rfl
  · rw [List.cons_append, List.cons_append, List.cons_append, sequences,
      next_three _ (by omega) h3 (by omega), hchar]
    rfl
  · rw [List.cons_append, List.cons_append, List.cons_append, List.cons_append, sequences,
      next_four _ (by omega) (by omega), hchar]
    rfl

theorem decodeLenient_encode (text : String) : decodeLenient (encode text) = text := by
  have hsequences : ∀ chars : List Char,
      sequences (chars.flatMap String.utf8EncodeChar) = chars.map some := by
    intro chars
    induction chars with
    | nil => rw [List.flatMap_nil, sequences, List.map_nil]
    | cons c rest ih => rw [List.flatMap_cons, sequences_encodeChar, ih, List.map_cons]
  have hchars : (text.toList.map some).map (fun c : Option Char => c.getD '\uFFFD') =
      text.toList := by
    rw [List.map_map]
    exact List.map_id _
  rw [decodeLenient, encode, hsequences, hchars, String.ofList_toList]

theorem ofNat_ne_zero {n : Nat} (hpos : 0 < n) (hlt : n < 256) : (0 : UInt8) ≠ UInt8.ofNat n := by
  intro heq
  have hn := toNat_ofNat hlt
  rw [← heq] at hn
  exact absurd hn (Nat.ne_of_lt hpos)

theorem zero_not_mem_encodeChar {c : Char} (h : c ≠ '\x00') : 0 ∉ String.utf8EncodeChar c := by
  have hpos : 0 < c.val.toNat := by
    apply Nat.pos_of_ne_zero
    intro hzero
    exact h (by rw [← Char.ofNat_toNat c, Char.toNat, hzero])
  have hvalid : c.val.toNat < 0xD800 ∨ 0xDFFF < c.val.toNat ∧ c.val.toNat < 0x110000 := c.valid
  rw [String.utf8EncodeChar]
  generalize c.val.toNat = v at hpos hvalid
  split_ifs <;> simp only [List.mem_cons, List.not_mem_nil, or_false, not_or]
  · exact ofNat_ne_zero hpos (by omega)
  · exact ⟨ofNat_ne_zero (by omega) (by omega), ofNat_ne_zero (by omega) (by omega)⟩
  · exact ⟨ofNat_ne_zero (by omega) (by omega), ofNat_ne_zero (by omega) (by omega),
      ofNat_ne_zero (by omega) (by omega)⟩
  · exact ⟨ofNat_ne_zero (by omega) (by omega), ofNat_ne_zero (by omega) (by omega),
      ofNat_ne_zero (by omega) (by omega), ofNat_ne_zero (by omega) (by omega)⟩

theorem zero_not_mem_encode {text : String} (h : '\x00' ∉ text.toList) : 0 ∉ encode text := by
  intro hmem
  obtain ⟨c, hc, hzero⟩ := List.mem_flatMap.1 hmem
  exact zero_not_mem_encodeChar (fun heq => h (heq ▸ hc)) hzero

end ProbeTrace.Text.Utf8
