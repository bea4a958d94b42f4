import Mathlib

/-!
# Percent-encoding

Bytes written as ASCII text: a byte that the encoder keeps stands for itself, any other is `%` and
two hexadecimal digits. The decoder reads escapes as bytes and every other character as its UTF-8
bytes, so that decoding is left inverse to encoding for every set of kept bytes that is ASCII and
leaves `%` out.
-/

namespace PercentLib

/-- The digit of `n < 16`, upper case. -/
def hexDigit (n : Nat) : Char := if n < 10 then Char.ofNat (48 + n) else Char.ofNat (55 + n)

/-- The value of a hexadecimal digit of either case. -/
def hexValue (c : Char) : Option Nat :=
  if '0' ≤ c ∧ c ≤ '9' then some (c.toNat - 48)
  else if 'A' ≤ c ∧ c ≤ 'F' then some (c.toNat - 55)
  else if 'a' ≤ c ∧ c ≤ 'f' then some (c.toNat - 87)
  else none

def encodeByte (keep : UInt8 → Bool) (b : UInt8) : List Char :=
  if keep b then [Char.ofNat b.toNat]
  else ['%', hexDigit (b.toNat / 16), hexDigit (b.toNat % 16)]

def encode (keep : UInt8 → Bool) (s : String) : String :=
  String.ofList (s.toByteArray.data.toList.flatMap (encodeByte keep))

def decodeBytes : List Char → Option (List UInt8)
  | [] => some []
  | '%' :: hi :: lo :: rest => do
    let hi ← hexValue hi
    let lo ← hexValue lo
    let bytes ← decodeBytes rest
    pure (UInt8.ofNat (16 * hi + lo) :: bytes)
  | '%' :: _ => none
  | c :: rest => do
    let bytes ← decodeBytes rest
    pure (String.utf8EncodeChar c ++ bytes)

/-- No text where an escape is broken or the bytes are no UTF-8. -/
def decode (s : String) : Option String :=
  (decodeBytes s.toList).bind fun bytes => String.fromUTF8? ⟨bytes.toArray⟩

/-! ## Decoding undoes encoding -/

theorem hexValue_hexDigit : ∀ n : Fin 16, hexValue (hexDigit n) = some n.val := by decide

/-- A byte that may stand for itself. -/
def Plain (b : UInt8) : Prop := b.toNat < 128 ∧ b.toNat ≠ 37

theorem decodeBytes_escape (b : UInt8) (rest : List Char) :
    decodeBytes ('%' :: hexDigit (b.toNat / 16) :: hexDigit (b.toNat % 16) :: rest) =
      (decodeBytes rest).map (b :: ·) := by
  have hlt := b.toNat_lt
  have hhi := hexValue_hexDigit ⟨b.toNat / 16, by omega⟩
  have hlo := hexValue_hexDigit ⟨b.toNat % 16, by omega⟩
  have hsum : 16 * (b.toNat / 16) + b.toNat % 16 = b.toNat := Nat.div_add_mod ..
  simp only [decodeBytes, hhi, hlo, Option.bind_eq_bind, Option.bind_some, hsum]
  cases decodeBytes rest with
  | none => rfl
  | some bytes => simp

theorem decodeBytes_cons_of_ne {c : Char} (hc : c ≠ '%') (rest : List Char) :
    decodeBytes (c :: rest) = (decodeBytes rest).map (String.utf8EncodeChar c ++ ·) := by
  rw [decodeBytes]
  · cases decodeBytes rest <;> rfl
  · intro hi lo rest' h _
    exact hc h
  · exact hc

theorem utf8EncodeChar_ofNat : ∀ n : Fin 128,
    String.utf8EncodeChar (Char.ofNat n) = [UInt8.ofNat n] := by
  decide

theorem ofNat_ne_percent : ∀ n : Fin 128, n.val ≠ 37 → Char.ofNat n ≠ '%' := by
  decide

theorem decodeBytes_plain {b : UInt8} (hb : Plain b) (rest : List Char) :
    decodeBytes (Char.ofNat b.toNat :: rest) = (decodeBytes rest).map (b :: ·) := by
  have hne := ofNat_ne_percent ⟨b.toNat, hb.1⟩ hb.2
  have hutf := utf8EncodeChar_ofNat ⟨b.toNat, hb.1⟩
  rw [decodeBytes_cons_of_ne hne, hutf]
  simp

theorem decodeBytes_encodeByte {keep : UInt8 → Bool} (hkeep : ∀ b, keep b = true → Plain b)
    (b : UInt8) (rest : List Char) :
    decodeBytes (encodeByte keep b ++ rest) = (decodeBytes rest).map (b :: ·) := by
  unfold encodeByte
  split
  · exact decodeBytes_plain (hkeep b ‹_›) rest
  · exact decodeBytes_escape b rest

theorem decodeBytes_flatMap {keep : UInt8 → Bool} (hkeep : ∀ b, keep b = true → Plain b)
    (bytes : List UInt8) : decodeBytes (bytes.flatMap (encodeByte keep)) = some bytes := by
  induction bytes with
  | nil => rfl
  | cons b bytes ih =>
      rw [List.flatMap_cons, decodeBytes_encodeByte hkeep, ih]
      rfl

theorem decode_encode {keep : UInt8 → Bool} (hkeep : ∀ b, keep b = true → Plain b)
    (s : String) : decode (encode keep s) = some s := by
  unfold decode encode
  rw [String.toList_ofList, decodeBytes_flatMap hkeep, Option.bind_some]
  have hbytes : (⟨s.toByteArray.data.toList.toArray⟩ : ByteArray) = s.toByteArray := by
    simp
  rw [hbytes, String.fromUTF8?, dif_pos s.isValidUTF8]
  rfl

/-! ## What an encoded text is made of -/

theorem mem_encode {keep : UInt8 → Bool} {s : String} {c : Char}
    (hc : c ∈ (encode keep s).toList) :
    (∃ b, keep b = true ∧ c = Char.ofNat b.toNat) ∨ c = '%' ∨ ∃ n : Fin 16, c = hexDigit n := by
  unfold encode at hc
  rw [String.toList_ofList, List.mem_flatMap] at hc
  obtain ⟨b, _, hb⟩ := hc
  have hlt := b.toNat_lt
  unfold encodeByte at hb
  split at hb
  · rw [List.mem_singleton] at hb
    exact Or.inl ⟨b, ‹_›, hb⟩
  · simp only [List.mem_cons, List.not_mem_nil, or_false] at hb
    rcases hb with rfl | rfl | rfl
    · exact Or.inr (Or.inl rfl)
    · exact Or.inr (Or.inr ⟨⟨b.toNat / 16, by omega⟩, rfl⟩)
    · exact Or.inr (Or.inr ⟨⟨b.toNat % 16, by omega⟩, rfl⟩)

theorem encode_ne_empty {keep : UInt8 → Bool} (hkeep : ∀ b, keep b = true → Plain b) {s : String}
    (hs : s ≠ "") : (encode keep s).toList ≠ [] := by
  intro h
  have hdecode := decode_encode hkeep s
  unfold decode at hdecode
  rw [h] at hdecode
  exact hs (Option.some.inj hdecode).symm

end PercentLib
