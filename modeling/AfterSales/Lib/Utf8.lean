import Mathlib.Data.List.Basic

/-! UTF-8 read as it arrives: one byte at a time, in chunks that may end inside a character.

    The decoder remembers the bits of the character it is in, how many bytes that one still needs,
    and which bytes may come next. A byte that may not come is answered with U+FFFD, and read again
    as the first byte of a character. Whatever was written is read back, however it is cut. -/

namespace Utf8

/-- Where a decoder is within a character. -/
structure Decoder where
  codePoint : Nat
  needed : Nat
  lower : Nat
  upper : Nat
  deriving DecidableEq, Repr

namespace Decoder

/-- A decoder between two characters. -/
def start : Decoder := ⟨0, 0, 0x80, 0xBF⟩

/-- The answer to bytes that are no character. -/
def replacement : Char := '\uFFFD'

/-- The first byte of a character. -/
def lead (b : Nat) : Decoder × List Char :=
  if b ≤ 0x7F then (start, [Char.ofNat b])
  else if 0xC2 ≤ b ∧ b ≤ 0xDF then (⟨b - 0xC0, 1, 0x80, 0xBF⟩, [])
  else if 0xE0 ≤ b ∧ b ≤ 0xEF then
    (⟨b - 0xE0, 2, if b = 0xE0 then 0xA0 else 0x80, if b = 0xED then 0x9F else 0xBF⟩, [])
  else if 0xF0 ≤ b ∧ b ≤ 0xF4 then
    (⟨b - 0xF0, 3, if b = 0xF0 then 0x90 else 0x80, if b = 0xF4 then 0x8F else 0xBF⟩, [])
  else (start, [replacement])

/-- A byte is read. -/
def step (d : Decoder) (byte : UInt8) : Decoder × List Char :=
  let b := byte.toNat
  if d.needed = 0 then lead b
  else if d.lower ≤ b ∧ b ≤ d.upper then
    let codePoint := d.codePoint * 64 + (b - 0x80)
    if d.needed = 1 then (start, [Char.ofNat codePoint])
    else (⟨codePoint, d.needed - 1, 0x80, 0xBF⟩, [])
  else ((lead b).1, replacement :: (lead b).2)

/-- The bytes of a chunk are read. -/
def decode (d : Decoder) : List UInt8 → Decoder × List Char
  | [] => (d, [])
  | byte :: bytes =>
    let first := d.step byte
    let rest := first.1.decode bytes
    (rest.1, first.2 ++ rest.2)

/-- What is left at the end of the bytes. -/
def flush (d : Decoder) : List Char := if d.needed = 0 then [] else [replacement]

theorem decode_append (d : Decoder) (xs ys : List UInt8) :
    d.decode (xs ++ ys) =
      (((d.decode xs).1.decode ys).1, (d.decode xs).2 ++ ((d.decode xs).1.decode ys).2) := by
  induction xs generalizing d with
  | nil => rfl
  | cons x xs ih => simp only [List.cons_append, decode, ih, List.append_assoc]

end Decoder

/-- The bytes of a text. -/
def encode (text : List Char) : List UInt8 := text.flatMap String.utf8EncodeChar

theorem encode_cons (c : Char) (text : List Char) :
    encode (c :: text) = String.utf8EncodeChar c ++ encode text := rfl

theorem encode_append (s t : List Char) : encode (s ++ t) = encode s ++ encode t :=
  List.flatMap_append

theorem toNat_ofNat {n : Nat} (h : n < 256) : (UInt8.ofNat n).toNat = n := by
  simp [Nat.mod_eq_of_lt h]

open Decoder

/-- A byte that ends a character. -/
theorem step_last {d : Decoder} {n : Nat} (hneeded : d.needed = 1) (hn : n < 64)
    (hrange : d.lower ≤ n + 0x80 ∧ n + 0x80 ≤ d.upper) :
    d.step (UInt8.ofNat (n + 0x80)) = (start, [Char.ofNat (d.codePoint * 64 + n)]) := by
  have hb : (UInt8.ofNat (n + 0x80)).toNat = n + 0x80 := toNat_ofNat (by omega)
  have hbits : n + 0x80 - 0x80 = n := by omega
  simp only [step, hb, hneeded, if_pos hrange, hbits]
  rfl

/-- A byte within a character. -/
theorem step_inner {d : Decoder} {n needed : Nat} (hneeded : d.needed = needed + 2) (hn : n < 64)
    (hrange : d.lower ≤ n + 0x80 ∧ n + 0x80 ≤ d.upper) :
    d.step (UInt8.ofNat (n + 0x80)) =
      (⟨d.codePoint * 64 + n, needed + 1, 0x80, 0xBF⟩, []) := by
  have hb : (UInt8.ofNat (n + 0x80)).toNat = n + 0x80 := toNat_ofNat (by omega)
  have hbits : n + 0x80 - 0x80 = n := by omega
  have hzero : ¬ needed + 2 = 0 := by omega
  have hone : ¬ needed + 2 = 1 := by omega
  simp only [step, hb, hneeded, if_pos hrange, hbits, if_neg hzero, if_neg hone]
  rfl

theorem step_start (n : Nat) (hn : n < 256) : start.step (UInt8.ofNat n) = lead n := by
  simp only [step, toNat_ofNat hn]
  rfl

/-- The first byte of a character of two, three, or four bytes. -/
theorem lead_two {n : Nat} (hlow : 2 ≤ n) (hn : n < 32) :
    lead (n + 0xC0) = (⟨n, 1, 0x80, 0xBF⟩, []) := by
  have hbits : n + 0xC0 - 0xC0 = n := by omega
  rw [lead, if_neg (by omega), if_pos (by omega), hbits]

theorem lead_three {n : Nat} (hn : n < 16) : lead (n + 0xE0) =
    (⟨n, 2, if n = 0 then 0xA0 else 0x80, if n = 0xD then 0x9F else 0xBF⟩, []) := by
  have hbits : n + 0xE0 - 0xE0 = n := by omega
  have hlow : n + 0xE0 = 0xE0 ↔ n = 0 := by omega
  have hhigh : n + 0xE0 = 0xED ↔ n = 0xD := by omega
  rw [lead, if_neg (by omega), if_neg (by omega), if_pos (by omega), hbits]
  simp only [hlow, hhigh]

theorem lead_four {n : Nat} (hn : n ≤ 4) : lead (n + 0xF0) =
    (⟨n, 3, if n = 0 then 0x90 else 0x80, if n = 4 then 0x8F else 0xBF⟩, []) := by
  have hbits : n + 0xF0 - 0xF0 = n := by omega
  have hlow : n + 0xF0 = 0xF0 ↔ n = 0 := by omega
  have hhigh : n + 0xF0 = 0xF4 ↔ n = 4 := by omega
  rw [lead, if_neg (by omega), if_neg (by omega), if_neg (by omega), if_pos (by omega), hbits]
  simp only [hlow, hhigh]

/-- A character is read back from its bytes. -/
theorem decode_char (c : Char) : start.decode (String.utf8EncodeChar c) = (start, [c]) := by
  obtain ⟨hvalid, hle⟩ : (c.toNat < 0xD800 ∨ 0xDFFF < c.toNat) ∧ c.toNat < 0x110000 := by
    rcases c.valid with h | ⟨h, h'⟩
    · exact ⟨Or.inl h, Nat.lt_trans h (by decide)⟩
    · exact ⟨Or.inr h, h'⟩
  have hc : Char.ofNat c.toNat = c := Char.ofNat_toNat c
  unfold String.utf8EncodeChar
  rw [show c.val.toNat = c.toNat from rfl]
  generalize c.toNat = v at *
  simp only
  split_ifs with h₁ h₂ h₃
  · simp only [decode, step_start v (by omega), lead, if_pos h₁, hc, List.append_nil]
  · have hlast := step_last (d := ⟨v / 64 % 32, 1, 0x80, 0xBF⟩) (n := v % 64) rfl (by omega)
      (by simp only; omega)
    have hsum : v / 64 % 32 * 64 + v % 64 = v := by omega
    simp only [hsum, hc] at hlast
    simp only [decode, step_start (v / 64 % 32 + 192) (by omega),
      lead_two (n := v / 64 % 32) (by omega) (by omega), hlast, List.nil_append, List.append_nil]
  · have hinner := step_inner (d := ⟨v / 4096 % 16, 2, if v / 4096 % 16 = 0 then 0xA0 else 0x80,
      if v / 4096 % 16 = 0xD then 0x9F else 0xBF⟩) (n := v / 64 % 64) rfl (by omega)
      (by simp only; split_ifs <;> omega)
    have hlast := step_last (d := ⟨v / 4096 % 16 * 64 + v / 64 % 64, 1, 0x80, 0xBF⟩) (n := v % 64)
      rfl (by omega) (by simp only; omega)
    have hsum : (v / 4096 % 16 * 64 + v / 64 % 64) * 64 + v % 64 = v := by omega
    simp only [hsum, hc] at hlast
    simp only [decode, step_start (v / 4096 % 16 + 224) (by omega),
      lead_three (n := v / 4096 % 16) (by omega), hinner, hlast, List.nil_append, List.append_nil]
  · have hfirst := step_inner (d := ⟨v / 262144 % 8, 3, if v / 262144 % 8 = 0 then 0x90 else 0x80,
      if v / 262144 % 8 = 4 then 0x8F else 0xBF⟩) (n := v / 4096 % 64) rfl (by omega)
      (by simp only; split_ifs <;> omega)
    have hinner := step_inner (d := ⟨v / 262144 % 8 * 64 + v / 4096 % 64, 2, 0x80, 0xBF⟩)
      (n := v / 64 % 64) rfl (by omega) (by simp only; omega)
    have hlast := step_last
      (d := ⟨(v / 262144 % 8 * 64 + v / 4096 % 64) * 64 + v / 64 % 64, 1, 0x80, 0xBF⟩)
      (n := v % 64) rfl (by omega) (by simp only; omega)
    have hsum : ((v / 262144 % 8 * 64 + v / 4096 % 64) * 64 + v / 64 % 64) * 64 + v % 64 = v := by
      omega
    simp only [hsum, hc] at hlast
    simp only [decode, step_start (v / 262144 % 8 + 240) (by omega),
      lead_four (n := v / 262144 % 8) (by omega), hfirst, hinner, hlast, List.nil_append,
      List.append_nil]

/-- A text is read back from its bytes, -/
theorem decode_encode (text : List Char) : start.decode (encode text) = (start, text) := by
  induction text with
  | nil => rfl
  | cons c text ih => rw [encode_cons, decode_append, decode_char, ih, List.singleton_append]

/-- and from the first of its bytes, what they complete of it. -/
theorem decode_prefix {bytes : List UInt8} {text : List Char} (h : bytes <+: encode text) :
    (start.decode bytes).2 <+: text := by
  obtain ⟨rest, hrest⟩ := h
  have hwhole := decode_encode text
  rw [← hrest, decode_append] at hwhole
  exact ⟨_, congrArg Prod.snd hwhole⟩

end Utf8
