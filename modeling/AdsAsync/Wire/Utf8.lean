import Mathlib.Data.List.Basic

/-!
# UTF-8

`str.encode('utf-8')` and the strict `bytes.decode('utf-8')`, which
`_create_byte_string_property` (`structs.py`) applies to `AdsDeviceInfo._name`.
Python's codec is not among the sources; it is modelled from RFC 3629: §3 for the
encoder, §4 for what the decoder accepts (no overlong forms, no surrogates, nothing
above U+10FFFF). A Lean `Char` is a Unicode scalar value, so every text has an
encoding.

* `decode_encode` — decoding an encoding gives the text back.
* `decode_eq_some_iff` — and the decoder accepts nothing else: every sequence it takes
  is the shortest form of its character (`decodeChar_sound`), so `b.decode('utf-8')`
  returns `s` exactly when `b` is `s.encode('utf-8')`.
* `zero_mem_encode_iff` — the only character whose encoding has a zero byte is NUL.
-/

namespace AdsAsync.Wire.Utf8

/-- A continuation byte, `%x80-BF` (RFC 3629 §4). -/
def isTail (b : UInt8) : Bool := 0x80 ≤ b.toNat && b.toNat < 0xC0

/-- The bytes of one character (RFC 3629 §3). -/
def encodeChar (c : Char) : List UInt8 :=
  let n := c.toNat
  if n < 0x80 then [n.toUInt8]
  else if n < 0x800 then [(0xC0 + n / 0x40).toUInt8, (0x80 + n % 0x40).toUInt8]
  else if n < 0x10000 then
    [(0xE0 + n / 0x1000).toUInt8, (0x80 + n / 0x40 % 0x40).toUInt8,
      (0x80 + n % 0x40).toUInt8]
  else
    [(0xF0 + n / 0x40000).toUInt8, (0x80 + n / 0x1000 % 0x40).toUInt8,
      (0x80 + n / 0x40 % 0x40).toUInt8, (0x80 + n % 0x40).toUInt8]

/-- `s.encode('utf-8')`. -/
def encode (s : String) : List UInt8 := s.data.flatMap encodeChar

/-- The first character of `bs` and the bytes after it, or `none` where `bs` does not
start with UTF-8. A lead byte announces one to four bytes; the code point the
sequence carries must need that many (no overlong form) and be a scalar value. -/
def decodeChar : List UInt8 → Option (Char × List UInt8)
  | [] => none
  | b0 :: bs =>
    let a := b0.toNat
    if a < 0x80 then some (Char.ofNat a, bs)
    else if a < 0xC0 then none
    else if a < 0xE0 then
      match bs with
      | b1 :: bs =>
        let n := a % 0x20 * 0x40 + b1.toNat % 0x40
        if isTail b1 && 0x80 ≤ n then some (Char.ofNat n, bs) else none
      | [] => none
    else if a < 0xF0 then
      match bs with
      | b1 :: b2 :: bs =>
        let n := a % 0x10 * 0x1000 + b1.toNat % 0x40 * 0x40 + b2.toNat % 0x40
        if isTail b1 && isTail b2 && 0x800 ≤ n && (n < 0xD800 || 0xDFFF < n) then
          some (Char.ofNat n, bs)
        else none
      | _ => none
    else if a < 0xF8 then
      match bs with
      | b1 :: b2 :: b3 :: bs =>
        let n := a % 0x08 * 0x40000 + b1.toNat % 0x40 * 0x1000 + b2.toNat % 0x40 * 0x40 +
          b3.toNat % 0x40
        if isTail b1 && isTail b2 && isTail b3 && 0x10000 ≤ n && n < 0x110000 then
          some (Char.ofNat n, bs)
        else none
      | _ => none
    else none

/-- A decoded character takes at least one byte. -/
theorem decodeChar_length {bs rest : List UInt8} {c : Char}
    (h : decodeChar bs = some (c, rest)) : rest.length < bs.length := by
  unfold decodeChar at h
  split at h
  · cases h
  · dsimp only at h
    split_ifs at h <;> (try split at h) <;> (try split_ifs at h) <;> cases h <;>
      simp only [List.length_cons] <;> omega

/-- The strict decoder: the characters, or `none` where the bytes are not UTF-8. -/
def decodeChars (bs : List UInt8) : Option (List Char) :=
  if bs = [] then some []
  else
    match h : decodeChar bs with
    | some (c, rest) => (c :: ·) <$> decodeChars rest
    | none => none
termination_by bs.length
decreasing_by exact decodeChar_length h

/-- `b.decode('utf-8')`, `none` where Python raises `UnicodeDecodeError`. -/
def decode (b : List UInt8) : Option String := (decodeChars b).map String.mk

@[simp] theorem toNat_toUInt8 (n : Nat) : n.toUInt8.toNat = n % 256 := rfl

/-! ### The decoder's four forms -/

theorem decodeChar_one {b : UInt8} (bs : List UInt8) (h : b.toNat < 0x80) :
    decodeChar (b :: bs) = some (Char.ofNat b.toNat, bs) := by
  simp only [decodeChar, if_pos h]

theorem decodeChar_two {b0 b1 : UInt8} (bs : List UInt8)
    (h0 : 0xC0 ≤ b0.toNat ∧ b0.toNat < 0xE0) (h1 : isTail b1 = true)
    (hn : 0x80 ≤ b0.toNat % 0x20 * 0x40 + b1.toNat % 0x40) :
    decodeChar (b0 :: b1 :: bs) =
      some (Char.ofNat (b0.toNat % 0x20 * 0x40 + b1.toNat % 0x40), bs) := by
  simp only [decodeChar, if_neg (show ¬b0.toNat < 0x80 by omega),
    if_neg (show ¬b0.toNat < 0xC0 by omega), if_pos h0.2, h1, hn, decide_True, Bool.and_self,
    if_true]

theorem decodeChar_three {b0 b1 b2 : UInt8} (bs : List UInt8)
    (h0 : 0xE0 ≤ b0.toNat ∧ b0.toNat < 0xF0) (h1 : isTail b1 = true) (h2 : isTail b2 = true)
    (hn : 0x800 ≤ b0.toNat % 0x10 * 0x1000 + b1.toNat % 0x40 * 0x40 + b2.toNat % 0x40)
    (hs : b0.toNat % 0x10 * 0x1000 + b1.toNat % 0x40 * 0x40 + b2.toNat % 0x40 < 0xD800 ∨
      0xDFFF < b0.toNat % 0x10 * 0x1000 + b1.toNat % 0x40 * 0x40 + b2.toNat % 0x40) :
    decodeChar (b0 :: b1 :: b2 :: bs) =
      some (Char.ofNat (b0.toNat % 0x10 * 0x1000 + b1.toNat % 0x40 * 0x40 + b2.toNat % 0x40),
        bs) := by
  have hs' : (decide (b0.toNat % 0x10 * 0x1000 + b1.toNat % 0x40 * 0x40 + b2.toNat % 0x40 <
      0xD800) || decide (0xDFFF < b0.toNat % 0x10 * 0x1000 + b1.toNat % 0x40 * 0x40 +
      b2.toNat % 0x40)) = true := by simpa using hs
  simp only [decodeChar, if_neg (show ¬b0.toNat < 0x80 by omega),
    if_neg (show ¬b0.toNat < 0xC0 by omega), if_neg (show ¬b0.toNat < 0xE0 by omega),
    if_pos h0.2, h1, h2, hn, hs', decide_True, Bool.and_self, if_true]

theorem decodeChar_four {b0 b1 b2 b3 : UInt8} (bs : List UInt8)
    (h0 : 0xF0 ≤ b0.toNat ∧ b0.toNat < 0xF8) (h1 : isTail b1 = true) (h2 : isTail b2 = true)
    (h3 : isTail b3 = true)
    (hn : 0x10000 ≤ b0.toNat % 0x08 * 0x40000 + b1.toNat % 0x40 * 0x1000 +
      b2.toNat % 0x40 * 0x40 + b3.toNat % 0x40 ∧
      b0.toNat % 0x08 * 0x40000 + b1.toNat % 0x40 * 0x1000 + b2.toNat % 0x40 * 0x40 +
        b3.toNat % 0x40 < 0x110000) :
    decodeChar (b0 :: b1 :: b2 :: b3 :: bs) =
      some (Char.ofNat (b0.toNat % 0x08 * 0x40000 + b1.toNat % 0x40 * 0x1000 +
        b2.toNat % 0x40 * 0x40 + b3.toNat % 0x40), bs) := by
  simp only [decodeChar, if_neg (show ¬b0.toNat < 0x80 by omega),
    if_neg (show ¬b0.toNat < 0xC0 by omega), if_neg (show ¬b0.toNat < 0xE0 by omega),
    if_neg (show ¬b0.toNat < 0xF0 by omega), if_pos h0.2, h1, h2, h3, hn.1, hn.2, decide_True,
    Bool.and_self, if_true]

theorem isTail_toUInt8 (n : Nat) : isTail (0x80 + n % 0x40).toUInt8 = true := by
  simp only [isTail, toNat_toUInt8, Bool.and_eq_true, decide_eq_true_eq]
  omega

/-- A continuation byte carries six bits. -/
theorem tail_payload (n : Nat) : (0x80 + n % 0x40).toUInt8.toNat % 0x40 = n % 0x40 := by
  simp only [toNat_toUInt8]; omega

/-- The decoder reads one encoded character off the front. -/
theorem decodeChar_encodeChar_append (c : Char) (rest : List UInt8) :
    decodeChar (encodeChar c ++ rest) = some (c, rest) := by
  have hv : c.toNat < 0xD800 ∨ (0xDFFF < c.toNat ∧ c.toNat < 0x110000) := c.valid
  have hc : Char.ofNat c.toNat = c := Char.ofNat_toNat c
  unfold encodeChar
  generalize c.toNat = n at hv hc ⊢
  dsimp only
  split_ifs with h1 h2 h3
  · rw [List.singleton_append, decodeChar_one _ (by simp only [toNat_toUInt8]; omega),
      toNat_toUInt8, Nat.mod_eq_of_lt (by omega), hc]
  · have hlead : (0xC0 + n / 0x40).toUInt8.toNat % 0x20 = n / 0x40 := by
      simp only [toNat_toUInt8]; omega
    have hn : n / 0x40 * 0x40 + n % 0x40 = n := Nat.div_add_mod' n 0x40
    rw [List.cons_append, List.cons_append, List.nil_append,
      decodeChar_two _ (by simp only [toNat_toUInt8]; omega) (isTail_toUInt8 n)
        (by rw [hlead, tail_payload]; omega), hlead, tail_payload, hn, hc]
  · have hlead : (0xE0 + n / 0x1000).toUInt8.toNat % 0x10 = n / 0x1000 := by
      simp only [toNat_toUInt8]; omega
    have hn : n / 0x1000 * 0x1000 + n / 0x40 % 0x40 * 0x40 + n % 0x40 = n := by omega
    rw [List.cons_append, List.cons_append, List.cons_append, List.nil_append,
      decodeChar_three _ (by simp only [toNat_toUInt8]; omega) (isTail_toUInt8 _)
        (isTail_toUInt8 n) (by rw [hlead, tail_payload, tail_payload]; omega)
        (by rw [hlead, tail_payload, tail_payload]; omega), hlead, tail_payload, tail_payload, hn,
      hc]
  · have hlead : (0xF0 + n / 0x40000).toUInt8.toNat % 0x08 = n / 0x40000 := by
      simp only [toNat_toUInt8]; omega
    have hn : n / 0x40000 * 0x40000 + n / 0x1000 % 0x40 * 0x1000 + n / 0x40 % 0x40 * 0x40 +
        n % 0x40 = n := by omega
    rw [List.cons_append, List.cons_append, List.cons_append, List.cons_append, List.nil_append,
      decodeChar_four _ (by simp only [toNat_toUInt8]; omega) (isTail_toUInt8 _)
        (isTail_toUInt8 _) (isTail_toUInt8 n)
        (by rw [hlead, tail_payload, tail_payload, tail_payload]; omega), hlead, tail_payload,
      tail_payload, tail_payload, hn, hc]

theorem encodeChar_ne_nil (c : Char) : encodeChar c ≠ [] := by
  unfold encodeChar; dsimp only; split_ifs <;> simp

/-- One step of the decoding loop. -/
theorem decodeChars_of_decodeChar {bs rest : List UInt8} {c : Char} (hne : bs ≠ [])
    (h : decodeChar bs = some (c, rest)) : decodeChars bs = (c :: ·) <$> decodeChars rest := by
  rw [decodeChars, if_neg hne]
  split
  · rename_i h'; rw [h] at h'; cases h'; rfl
  · rename_i h'; rw [h] at h'; cases h'

theorem decodeChars_flatMap (cs : List Char) : decodeChars (cs.flatMap encodeChar) = some cs := by
  induction cs with
  | nil => simp [decodeChars]
  | cons c cs ih =>
    rw [List.flatMap_cons, decodeChars_of_decodeChar (by simp [encodeChar_ne_nil])
      (decodeChar_encodeChar_append c _), ih]
    rfl

/-- Decoding an encoding gives the text back. -/
theorem decode_encode (s : String) : decode (encode s) = some s := by
  simp only [decode, encode, decodeChars_flatMap, Option.map_some']

/-! ### Nothing but encodings -/

theorem toNat_charOfNat {n : Nat} (h : n < 0xD800 ∨ (0xDFFF < n ∧ n < 0x110000)) :
    (Char.ofNat n).toNat = n := by
  rw [Char.ofNat, dif_pos h]; rfl

theorem toUInt8_eq_iff {n : Nat} {b : UInt8} : n.toUInt8 = b ↔ n % 256 = b.toNat :=
  ⟨fun h => h ▸ rfl, fun h => UInt8.toNat.inj h⟩

theorem isTail_iff {b : UInt8} : isTail b = true ↔ 0x80 ≤ b.toNat ∧ b.toNat < 0xC0 := by
  simp only [isTail, Bool.and_eq_true, decide_eq_true_eq]

/-! The encoder gives back the bytes of each of the decoder's four forms. -/

/-- A continuation byte is `0x80` and its six payload bits. -/
theorem tail_eq {b : UInt8} (h : isTail b = true) : (0x80 + b.toNat % 0x40).toUInt8 = b := by
  rw [isTail_iff] at h
  rw [toUInt8_eq_iff]
  omega

theorem encodeChar_one {b : UInt8} (h : b.toNat < 0x80) : encodeChar (Char.ofNat b.toNat) = [b] := by
  rw [encodeChar, toNat_charOfNat (by omega), if_pos h, List.cons.injEq, toUInt8_eq_iff]
  exact ⟨Nat.mod_eq_of_lt (by omega), rfl⟩

theorem encodeChar_two {b0 b1 : UInt8} (h0 : 0xC0 ≤ b0.toNat ∧ b0.toNat < 0xE0)
    (h1 : isTail b1 = true) (hn : 0x80 ≤ b0.toNat % 0x20 * 0x40 + b1.toNat % 0x40) :
    encodeChar (Char.ofNat (b0.toNat % 0x20 * 0x40 + b1.toNat % 0x40)) = [b0, b1] := by
  have hlead : (0xC0 + b0.toNat % 0x20).toUInt8 = b0 := toUInt8_eq_iff.2 (by omega)
  have hd : (b0.toNat % 0x20 * 0x40 + b1.toNat % 0x40) / 0x40 = b0.toNat % 0x20 ∧
      (b0.toNat % 0x20 * 0x40 + b1.toNat % 0x40) % 0x40 = b1.toNat % 0x40 := by omega
  rw [encodeChar, toNat_charOfNat (by omega), if_neg (by omega), if_pos (by omega), hd.1, hd.2,
    hlead, tail_eq h1]

/-- The base-64 digits of a code point, as the encoder reads them back. -/
theorem digits_three (x0 x1 x2 : Nat) (h1 : x1 < 0x40) (h2 : x2 < 0x40) :
    (x0 * 0x1000 + x1 * 0x40 + x2) / 0x1000 = x0 ∧
      (x0 * 0x1000 + x1 * 0x40 + x2) / 0x40 % 0x40 = x1 ∧
      (x0 * 0x1000 + x1 * 0x40 + x2) % 0x40 = x2 := by
  omega

theorem digits_four (x0 x1 x2 x3 : Nat) (h1 : x1 < 0x40) (h2 : x2 < 0x40) (h3 : x3 < 0x40) :
    (x0 * 0x40000 + x1 * 0x1000 + x2 * 0x40 + x3) / 0x40000 = x0 ∧
      (x0 * 0x40000 + x1 * 0x1000 + x2 * 0x40 + x3) / 0x1000 % 0x40 = x1 ∧
      (x0 * 0x40000 + x1 * 0x1000 + x2 * 0x40 + x3) / 0x40 % 0x40 = x2 ∧
      (x0 * 0x40000 + x1 * 0x1000 + x2 * 0x40 + x3) % 0x40 = x3 := by
  omega

theorem encodeChar_three {b0 b1 b2 : UInt8} (h0 : 0xE0 ≤ b0.toNat ∧ b0.toNat < 0xF0)
    (h1 : isTail b1 = true) (h2 : isTail b2 = true)
    (hn : 0x800 ≤ b0.toNat % 0x10 * 0x1000 + b1.toNat % 0x40 * 0x40 + b2.toNat % 0x40)
    (hs : b0.toNat % 0x10 * 0x1000 + b1.toNat % 0x40 * 0x40 + b2.toNat % 0x40 < 0xD800 ∨
      0xDFFF < b0.toNat % 0x10 * 0x1000 + b1.toNat % 0x40 * 0x40 + b2.toNat % 0x40) :
    encodeChar (Char.ofNat (b0.toNat % 0x10 * 0x1000 + b1.toNat % 0x40 * 0x40 + b2.toNat % 0x40)) =
      [b0, b1, b2] := by
  have hlead : (0xE0 + b0.toNat % 0x10).toUInt8 = b0 := toUInt8_eq_iff.2 (by omega)
  have hd := digits_three (b0.toNat % 0x10) _ _ (Nat.mod_lt b1.toNat (by decide))
    (Nat.mod_lt b2.toNat (by decide))
  have hlt : b0.toNat % 0x10 * 0x1000 + b1.toNat % 0x40 * 0x40 + b2.toNat % 0x40 < 0x10000 := by
    omega
  rw [encodeChar, toNat_charOfNat (hs.imp_right fun h => ⟨h, by omega⟩), if_neg (by omega),
    if_neg (by omega), if_pos hlt, hd.1, hd.2.1, hd.2.2, hlead, tail_eq h1, tail_eq h2]

theorem encodeChar_four {b0 b1 b2 b3 : UInt8} (h0 : 0xF0 ≤ b0.toNat ∧ b0.toNat < 0xF8)
    (h1 : isTail b1 = true) (h2 : isTail b2 = true) (h3 : isTail b3 = true)
    (hn : 0x10000 ≤ b0.toNat % 0x08 * 0x40000 + b1.toNat % 0x40 * 0x1000 +
      b2.toNat % 0x40 * 0x40 + b3.toNat % 0x40 ∧
      b0.toNat % 0x08 * 0x40000 + b1.toNat % 0x40 * 0x1000 + b2.toNat % 0x40 * 0x40 +
        b3.toNat % 0x40 < 0x110000) :
    encodeChar (Char.ofNat (b0.toNat % 0x08 * 0x40000 + b1.toNat % 0x40 * 0x1000 +
        b2.toNat % 0x40 * 0x40 + b3.toNat % 0x40)) = [b0, b1, b2, b3] := by
  have hlead : (0xF0 + b0.toNat % 0x08).toUInt8 = b0 := toUInt8_eq_iff.2 (by omega)
  have hd := digits_four (b0.toNat % 0x08) _ _ _ (Nat.mod_lt b1.toNat (by decide))
    (Nat.mod_lt b2.toNat (by decide)) (Nat.mod_lt b3.toNat (by decide))
  rw [encodeChar, toNat_charOfNat (Or.inr ⟨by omega, hn.2⟩), if_neg (by omega), if_neg (by omega),
    if_neg (by omega), hd.1, hd.2.1, hd.2.2.1, hd.2.2.2, hlead, tail_eq h1, tail_eq h2, tail_eq h3]

/-- The decoder takes only the shortest form of a character: the bytes it reads are
the character's encoding. -/
theorem decodeChar_sound {bs rest : List UInt8} {c : Char}
    (h : decodeChar bs = some (c, rest)) : bs = encodeChar c ++ rest := by
  rcases bs with _ | ⟨b0, bs⟩
  · cases h
  simp only [decodeChar] at h
  by_cases ha : b0.toNat < 0x80
  · rw [if_pos ha, Option.some.injEq, Prod.mk.injEq] at h
    obtain ⟨rfl, rfl⟩ := h
    rw [encodeChar_one ha, List.singleton_append]
  rw [if_neg ha] at h
  by_cases hb : b0.toNat < 0xC0
  · rw [if_pos hb] at h; cases h
  rw [if_neg hb] at h
  by_cases hc : b0.toNat < 0xE0
  · rw [if_pos hc] at h
    rcases bs with _ | ⟨b1, bs⟩
    · cases h
    dsimp only at h
    split_ifs at h with hn
    cases h
    simp only [Bool.and_eq_true, decide_eq_true_eq] at hn
    rw [encodeChar_two ⟨by omega, hc⟩ hn.1 hn.2]; rfl
  rw [if_neg hc] at h
  by_cases hd : b0.toNat < 0xF0
  · rw [if_pos hd] at h
    rcases bs with _ | ⟨b1, _ | ⟨b2, bs⟩⟩
    · cases h
    · cases h
    dsimp only at h
    split_ifs at h with hn
    cases h
    simp only [Bool.and_eq_true, Bool.or_eq_true, decide_eq_true_eq] at hn
    rw [encodeChar_three ⟨by omega, hd⟩ hn.1.1.1 hn.1.1.2 hn.1.2 hn.2]; rfl
  rw [if_neg hd] at h
  by_cases he : b0.toNat < 0xF8
  · rw [if_pos he] at h
    rcases bs with _ | ⟨b1, _ | ⟨b2, _ | ⟨b3, bs⟩⟩⟩
    · cases h
    · cases h
    · cases h
    dsimp only at h
    split_ifs at h with hn
    cases h
    simp only [Bool.and_eq_true, decide_eq_true_eq] at hn
    rw [encodeChar_four ⟨by omega, he⟩ hn.1.1.1.1 hn.1.1.1.2 hn.1.1.2 ⟨hn.1.2, hn.2⟩]; rfl
  rw [if_neg he] at h; cases h

/-- The decoding loop accepts only concatenated encodings. -/
theorem decodeChars_sound {bs : List UInt8} {cs : List Char} (h : decodeChars bs = some cs) :
    bs = cs.flatMap encodeChar := by
  induction bs using decodeChars.induct generalizing cs with
  | case1 => rw [decodeChars, if_pos rfl] at h; cases h; rfl
  | case2 bs hne c rest hdec ih =>
    rw [decodeChars_of_decodeChar hne hdec] at h
    obtain ⟨cs', hcs', rfl⟩ := Option.map_eq_some'.1 h
    rw [decodeChar_sound hdec, ih hcs', List.flatMap_cons]
  | case3 bs hne hdec =>
    rw [decodeChars, if_neg hne] at h
    split at h
    · rename_i h'; rw [hdec] at h'; cases h'
    · cases h

/-- **The strict decoder is the encoder's inverse**: `b.decode('utf-8')` returns `s`
exactly when `b` is `s.encode('utf-8')`. -/
theorem decode_eq_some_iff {b : List UInt8} {s : String} : decode b = some s ↔ encode s = b :=
  ⟨fun h => by
    obtain ⟨cs, hcs, rfl⟩ := Option.map_eq_some'.1 h
    exact (decodeChars_sound hcs).symm,
   fun h => h ▸ decode_encode s⟩

/-! ### NUL -/

/-- Every byte of a multi-byte sequence is at least `0x80`. -/
theorem zero_mem_encodeChar_iff (c : Char) : (0 : UInt8) ∈ encodeChar c ↔ c.toNat = 0 := by
  have h0 : ∀ x : Nat, x.toUInt8 = 0 ↔ x % 256 = 0 := fun x =>
    ⟨fun h => by simpa using congrArg UInt8.toNat h, fun h => UInt8.toNat.inj (by simpa using h)⟩
  have hv : c.toNat < 0xD800 ∨ (0xDFFF < c.toNat ∧ c.toNat < 0x110000) := c.valid
  unfold encodeChar
  generalize c.toNat = n at hv ⊢
  dsimp only
  split_ifs <;> simp only [List.mem_cons, List.mem_singleton, List.not_mem_nil, or_false,
    eq_comm (a := (0 : UInt8)), h0] <;> omega

/-- A text's encoding has a zero byte exactly when the text has a NUL. -/
theorem zero_mem_encode_iff (s : String) : (0 : UInt8) ∈ encode s ↔ '\x00' ∈ s.data := by
  simp only [encode, List.mem_flatMap, zero_mem_encodeChar_iff]
  constructor
  · rintro ⟨c, hc, h0⟩
    rwa [show c = '\x00' from Char.ext (UInt32.toNat.inj h0)] at hc
  · exact fun h => ⟨_, h, rfl⟩

/-- The bytes of a text up to its first NUL byte encode the text up to its first NUL. -/
theorem takeWhile_encode (s : String) :
    (encode s).takeWhile (· != 0) = encode ⟨s.data.takeWhile (· != '\x00')⟩ := by
  obtain ⟨cs⟩ := s
  simp only [encode]
  induction cs with
  | nil => rfl
  | cons c cs ih =>
    by_cases hc : c = '\x00'
    · subst hc; rfl
    · have hne : ∀ a ∈ encodeChar c, (a != 0) = true := fun a ha => by
        rw [bne_iff_ne]
        rintro rfl
        exact hc (Char.ext (UInt32.toNat.inj ((zero_mem_encodeChar_iff c).1 ha)))
      rw [List.flatMap_cons, List.takeWhile_append_of_pos hne, ih,
        List.takeWhile_cons_of_pos (p := (· != '\x00')) (bne_iff_ne.2 hc), List.flatMap_cons]

end AdsAsync.Wire.Utf8
