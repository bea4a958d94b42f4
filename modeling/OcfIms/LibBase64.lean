import Mathlib

/-!
# Base64 without padding

Three bytes are four characters of a sixty-four letter alphabet; one or two bytes at the end are two
or three. The decoder is the strict one: the bits that the last character has left over are zero.
Then a text decodes to some bytes exactly where it is what they are encoded as, over any alphabet.
-/

namespace Base64Lib

/-- Sixty-four characters, each standing for its position. -/
structure Alphabet where
  chars : List Char
  length : chars.length = 64
  nodup : chars.Nodup

namespace Alphabet

variable (A : Alphabet)

/-- The character of `n < 64`. -/
def char (n : Nat) : Char := A.chars[n]?.getD 'A'

def value (c : Char) : Option Nat := A.chars.idxOf? c

theorem value_char {n : Nat} (h : n < 64) : A.value (A.char n) = some n := by
  have hlt : n < A.chars.length := by rw [A.length]; exact h
  rw [char, List.getElem?_eq_getElem hlt, Option.getD_some, value]
  exact List.idxOf?_eq_some_iff.mpr ⟨hlt, by simp, fun j hj => by
    simpa using fun heq => absurd (A.nodup.getElem_inj_iff.mp heq) (Nat.ne_of_lt hj)⟩

theorem char_of_value {c : Char} {n : Nat} (h : A.value c = some n) : n < 64 ∧ A.char n = c := by
  obtain ⟨hlt, heq, -⟩ := List.idxOf?_eq_some_iff.mp h
  refine ⟨by rw [← A.length]; exact hlt, ?_⟩
  rw [char, List.getElem?_eq_getElem hlt, Option.getD_some]
  simpa using heq

theorem mem_chars_of_value {c : Char} {n : Nat} (h : A.value c = some n) : c ∈ A.chars := by
  obtain ⟨hlt, heq, -⟩ := List.idxOf?_eq_some_iff.mp h
  have hc : A.chars[n] = c := by simpa using heq
  exact hc ▸ List.getElem_mem hlt

/-! ## The coding -/

def encode : List UInt8 → List Char
  | [] => []
  | [a] => [A.char (a.toNat / 4), A.char (a.toNat % 4 * 16)]
  | [a, b] =>
    [A.char (a.toNat / 4), A.char (a.toNat % 4 * 16 + b.toNat / 16), A.char (b.toNat % 16 * 4)]
  | a :: b :: c :: rest =>
    A.char (a.toNat / 4) :: A.char (a.toNat % 4 * 16 + b.toNat / 16) ::
      A.char (b.toNat % 16 * 4 + c.toNat / 64) :: A.char (c.toNat % 64) :: encode rest

/-- No bytes where a character is none of the alphabet, one is left over, or its spare bits are
set. -/
def decode : List Char → Option (List UInt8)
  | [] => some []
  | [_] => none
  | [x, y] => do
    let x ← A.value x
    let y ← A.value y
    if y % 16 = 0 then some [UInt8.ofNat (x * 4 + y / 16)] else none
  | [x, y, z] => do
    let x ← A.value x
    let y ← A.value y
    let z ← A.value z
    if z % 4 = 0 then some [UInt8.ofNat (x * 4 + y / 16), UInt8.ofNat (y % 16 * 16 + z / 4)]
    else none
  | x :: y :: z :: w :: rest => do
    let x ← A.value x
    let y ← A.value y
    let z ← A.value z
    let w ← A.value w
    let bytes ← decode rest
    some (UInt8.ofNat (x * 4 + y / 16) :: UInt8.ofNat (y % 16 * 16 + z / 4) ::
      UInt8.ofNat (z % 4 * 64 + w) :: bytes)

theorem ofNat_eq {a : UInt8} {n : Nat} (h : n = a.toNat) : UInt8.ofNat n = a := by
  rw [h, UInt8.ofNat_toNat]

theorem decode_encode : ∀ bytes : List UInt8, A.decode (A.encode bytes) = some bytes
  | [] => rfl
  | [a] => by
      have ha := a.toNat_lt
      have hx : a.toNat / 4 < 64 := by omega
      have hy : a.toNat % 4 * 16 < 64 := by omega
      simp only [encode, decode, A.value_char hx, A.value_char hy, Option.bind_eq_bind,
        Option.bind_some]
      rw [if_pos (by omega), ofNat_eq (a := a) (by omega)]
  | [a, b] => by
      have ha := a.toNat_lt
      have hb := b.toNat_lt
      have hx : a.toNat / 4 < 64 := by omega
      have hy : a.toNat % 4 * 16 + b.toNat / 16 < 64 := by omega
      have hz : b.toNat % 16 * 4 < 64 := by omega
      simp only [encode, decode, A.value_char hx, A.value_char hy, A.value_char hz,
        Option.bind_eq_bind, Option.bind_some]
      rw [if_pos (by omega), ofNat_eq (a := a) (by omega), ofNat_eq (a := b) (by omega)]
  | a :: b :: c :: rest => by
      have ha := a.toNat_lt
      have hb := b.toNat_lt
      have hc := c.toNat_lt
      have hx : a.toNat / 4 < 64 := by omega
      have hy : a.toNat % 4 * 16 + b.toNat / 16 < 64 := by omega
      have hz : b.toNat % 16 * 4 + c.toNat / 64 < 64 := by omega
      have hw : c.toNat % 64 < 64 := by omega
      simp only [encode, decode, A.value_char hx, A.value_char hy, A.value_char hz,
        A.value_char hw, decode_encode rest, Option.bind_eq_bind, Option.bind_some]
      rw [ofNat_eq (a := a) (by omega), ofNat_eq (a := b) (by omega), ofNat_eq (a := c) (by omega)]

/-- **The decoder is canonical.** -/
theorem encode_of_decode : ∀ {text : List Char} {bytes : List UInt8},
    A.decode text = some bytes → A.encode bytes = text
  | [], bytes, h => by
      cases h
      rfl
  | [_], bytes, h => by cases h
  | [x, y], bytes, h => by
      simp only [decode, Option.bind_eq_bind, Option.bind_eq_some_iff] at h
      obtain ⟨p, hp, q, hq, h⟩ := h
      obtain ⟨hplt, rfl⟩ := A.char_of_value hp
      obtain ⟨hqlt, rfl⟩ := A.char_of_value hq
      split at h
      · cases h
        have hbyte : (UInt8.ofNat (p * 4 + q / 16)).toNat = p * 4 + q / 16 :=
          UInt8.toNat_ofNat_of_lt' (by change _ < 256; omega)
        have h₁ : (p * 4 + q / 16) / 4 = p := by omega
        have h₂ : (p * 4 + q / 16) % 4 * 16 = q := by omega
        rw [encode, hbyte, h₁, h₂]
      · cases h
  | [x, y, z], bytes, h => by
      simp only [decode, Option.bind_eq_bind, Option.bind_eq_some_iff] at h
      obtain ⟨p, hp, q, hq, r, hr, h⟩ := h
      obtain ⟨hplt, rfl⟩ := A.char_of_value hp
      obtain ⟨hqlt, rfl⟩ := A.char_of_value hq
      obtain ⟨hrlt, rfl⟩ := A.char_of_value hr
      split at h
      · cases h
        have hfirst : (UInt8.ofNat (p * 4 + q / 16)).toNat = p * 4 + q / 16 :=
          UInt8.toNat_ofNat_of_lt' (by change _ < 256; omega)
        have hsecond : (UInt8.ofNat (q % 16 * 16 + r / 4)).toNat = q % 16 * 16 + r / 4 :=
          UInt8.toNat_ofNat_of_lt' (by change _ < 256; omega)
        have h₁ : (p * 4 + q / 16) / 4 = p := by omega
        have h₂ : (p * 4 + q / 16) % 4 * 16 + (q % 16 * 16 + r / 4) / 16 = q := by omega
        have h₃ : (q % 16 * 16 + r / 4) % 16 * 4 = r := by omega
        rw [encode, hfirst, hsecond, h₁, h₂, h₃]
      · cases h
  | x :: y :: z :: w :: rest, bytes, h => by
      simp only [decode, Option.bind_eq_bind, Option.bind_eq_some_iff, Option.some.injEq] at h
      obtain ⟨p, hp, q, hq, r, hr, t, ht, tail, htail, rfl⟩ := h
      obtain ⟨hplt, rfl⟩ := A.char_of_value hp
      obtain ⟨hqlt, rfl⟩ := A.char_of_value hq
      obtain ⟨hrlt, rfl⟩ := A.char_of_value hr
      obtain ⟨htlt, rfl⟩ := A.char_of_value ht
      have hfirst : (UInt8.ofNat (p * 4 + q / 16)).toNat = p * 4 + q / 16 :=
        UInt8.toNat_ofNat_of_lt' (by change _ < 256; omega)
      have hsecond : (UInt8.ofNat (q % 16 * 16 + r / 4)).toNat = q % 16 * 16 + r / 4 :=
        UInt8.toNat_ofNat_of_lt' (by change _ < 256; omega)
      have hthird : (UInt8.ofNat (r % 4 * 64 + t)).toNat = r % 4 * 64 + t :=
        UInt8.toNat_ofNat_of_lt' (by change _ < 256; omega)
      rw [encode, hfirst, hsecond, hthird, encode_of_decode htail]
      have h₁ : (p * 4 + q / 16) / 4 = p := by omega
      have h₂ : (p * 4 + q / 16) % 4 * 16 + (q % 16 * 16 + r / 4) / 16 = q := by omega
      have h₃ : (q % 16 * 16 + r / 4) % 16 * 4 + (r % 4 * 64 + t) / 64 = r := by omega
      have h₄ : (r % 4 * 64 + t) % 64 = t := by omega
      rw [h₁, h₂, h₃, h₄]

theorem decode_eq_some_iff {text : List Char} {bytes : List UInt8} :
    A.decode text = some bytes ↔ text = A.encode bytes :=
  ⟨fun h => (A.encode_of_decode h).symm, fun h => h ▸ A.decode_encode bytes⟩

theorem char_mem {n : Nat} (h : n < 64) : A.char n ∈ A.chars :=
  A.mem_chars_of_value (A.value_char h)

theorem mem_of_mem_encode : ∀ {bytes : List UInt8} {c : Char}, c ∈ A.encode bytes → c ∈ A.chars
  | [], _, h => by simp [encode] at h
  | [a], c, h => by
      have ha := a.toNat_lt
      simp only [encode, List.mem_cons, List.not_mem_nil, or_false] at h
      rcases h with rfl | rfl <;> exact A.char_mem (by omega)
  | [a, b], c, h => by
      have ha := a.toNat_lt
      have hb := b.toNat_lt
      simp only [encode, List.mem_cons, List.not_mem_nil, or_false] at h
      rcases h with rfl | rfl | rfl <;> exact A.char_mem (by omega)
  | a :: b :: d :: rest, c, h => by
      have ha := a.toNat_lt
      have hb := b.toNat_lt
      have hd := d.toNat_lt
      simp only [encode, List.mem_cons] at h
      rcases h with rfl | rfl | rfl | rfl | h
      · exact A.char_mem (by omega)
      · exact A.char_mem (by omega)
      · exact A.char_mem (by omega)
      · exact A.char_mem (by omega)
      · exact mem_of_mem_encode h

end Alphabet

/-- The alphabet of RFC 4648. -/
def std : Alphabet where
  chars := "ABCDEFGHIJKLMNOPQRSTUVWXYZabcdefghijklmnopqrstuvwxyz0123456789+/".toList
  length := by decide
  nodup := by decide

end Base64Lib
