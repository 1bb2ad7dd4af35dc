/-
A text is read back from its UTF-8 bytes. Reading takes one character
after the other: its first byte says how many follow and bounds the
next, and each of these adds six bits to the value (`decodeGo_first`,
`decodeGo_more`, `decodeGo_last`). The bounds on the second byte are what
keeps out overlong forms and surrogates, and no character is written
with either.
-/
import FileDepot.Text.Utf8

namespace FileDepot.Text

-- ========================================================== one byte

section

variable {read : List Char} {b : UInt8} {rest : List UInt8} {p : Pending}

/-- The first byte of a character of several. -/
theorem decodeGo_first {wanted low high : Nat} (hb : 0x80 ≤ b.toNat)
    (h : sequenceOf b.toNat = some (wanted, low, high)) :
    decodeGo none read (b :: rest)
      = decodeGo
          (some ⟨b.toNat % (64 >>> wanted), wanted, low, high⟩) read rest := by
  rw [decodeGo, stepByte, startByte, if_neg (by omega), h]
  rfl

/-- A byte behind the first holds six bits. -/
theorem toNat_sixBits (m : Nat) :
    (UInt8.ofNat (m % 0x40 + 0x80)).toNat = m % 64 + 0x80 := by
  rw [UInt8.toNat_ofNat']
  omega

variable {m : Nat} (hlow : p.low ≤ m % 64 + 0x80)
  (hhigh : m % 64 + 0x80 ≤ p.high)

include hlow hhigh

/-- A byte inside a character, with more to come. -/
theorem decodeGo_more (hwanted : 1 < p.wanted) :
    decodeGo (some p) read (UInt8.ofNat (m % 0x40 + 0x80) :: rest)
      = decodeGo (some ⟨p.value * 64 + m % 64, p.wanted - 1, 0x80, 0xBF⟩)
          read rest := by
  rw [decodeGo, stepByte, toNat_sixBits, if_pos ⟨hlow, hhigh⟩,
    if_neg (by omega)]
  have hbits : (m % 64 + 0x80) % 64 = m % 64 := by omega
  rw [hbits]
  rfl

/-- The last byte of a character. -/
theorem decodeGo_last (hwanted : p.wanted ≤ 1) :
    decodeGo (some p) read (UInt8.ofNat (m % 0x40 + 0x80) :: rest)
      = decodeGo none (Char.ofNat (p.value * 64 + m % 64) :: read) rest := by
  rw [decodeGo, stepByte, toNat_sixBits, if_pos ⟨hlow, hhigh⟩,
    if_pos hwanted]
  have hbits : (m % 64 + 0x80) % 64 = m % 64 := by omega
  rw [hbits]
  rfl

end

-- ===================================================== one character

section

variable {n : Nat} (read : List Char) (rest : List UInt8)

/-- A character of two bytes. -/
theorem decodeGo_two (hlow : 0x80 ≤ n) (hhigh : n ≤ 0x7FF) :
    decodeGo none read
        (UInt8.ofNat (n / 64 % 0x20 + 0xC0) :: UInt8.ofNat (n % 0x40 + 0x80)
          :: rest)
      = decodeGo none (Char.ofNat n :: read) rest := by
  have h₁ : (UInt8.ofNat (n / 64 % 0x20 + 0xC0)).toNat = n / 64 + 0xC0 := by
    rw [UInt8.toNat_ofNat']
    omega
  have hseq : sequenceOf (n / 64 + 0xC0) = some (1, 0x80, 0xBF) := by
    unfold sequenceOf
    rw [if_pos (by omega)]
  rw [decodeGo_first (by omega) (by rw [h₁]; exact hseq), h₁,
    decodeGo_last (by show 0x80 ≤ _; omega) (by show _ ≤ 0xBF; omega)
      (by show 1 ≤ 1; omega)]
  have hvalue : (n / 64 + 0xC0) % (64 >>> 1) * 64 + n % 64 = n := by
    rw [show 64 >>> 1 = 32 from rfl]
    omega
  rw [hvalue]

/-- What is asked for behind the first byte of a character of three: no
overlong form and no surrogate. -/
theorem sequenceOf_three (hlow : 0x800 ≤ n) (hhigh : n ≤ 0xFFFF)
    (hs : n < 0xD800 ∨ 0xDFFF < n) :
    ∃ low high, sequenceOf (n / 4096 + 0xE0) = some (2, low, high)
      ∧ low ≤ n / 64 % 64 + 0x80 ∧ n / 64 % 64 + 0x80 ≤ high := by
  unfold sequenceOf
  rw [if_neg (by omega)]
  by_cases hE0 : n / 4096 = 0
  · rw [if_pos (by omega)]
    exact ⟨0xA0, 0xBF, rfl, by omega, by omega⟩
  rw [if_neg (by omega)]
  by_cases hED : n / 4096 = 13
  · rw [if_pos (by omega)]
    exact ⟨0x80, 0x9F, rfl, by omega, by omega⟩
  · rw [if_neg (by omega), if_pos (by omega)]
    exact ⟨0x80, 0xBF, rfl, by omega, by omega⟩

/-- What is asked for behind the first byte of a character of four: no
overlong form and nothing beyond the last character. -/
theorem sequenceOf_four (hlow : 0x10000 ≤ n) (hhigh : n ≤ 0x10FFFF) :
    ∃ low high, sequenceOf (n / 262144 + 0xF0) = some (3, low, high)
      ∧ low ≤ n / 4096 % 64 + 0x80 ∧ n / 4096 % 64 + 0x80 ≤ high := by
  unfold sequenceOf
  rw [if_neg (by omega), if_neg (by omega), if_neg (by omega),
    if_neg (by omega)]
  by_cases hF0 : n / 262144 = 0
  · rw [if_pos (by omega)]
    exact ⟨0x90, 0xBF, rfl, by omega, by omega⟩
  rw [if_neg (by omega)]
  by_cases hF4 : n / 262144 = 4
  · rw [if_neg (by omega), if_pos (by omega)]
    exact ⟨0x80, 0x8F, rfl, by omega, by omega⟩
  · rw [if_pos (by omega)]
    exact ⟨0x80, 0xBF, rfl, by omega, by omega⟩

/-- A character of three bytes. -/
theorem decodeGo_three (hlow : 0x800 ≤ n) (hhigh : n ≤ 0xFFFF)
    (hs : n < 0xD800 ∨ 0xDFFF < n) :
    decodeGo none read
        (UInt8.ofNat (n / 4096 % 0x10 + 0xE0)
          :: UInt8.ofNat (n / 64 % 0x40 + 0x80)
          :: UInt8.ofNat (n % 0x40 + 0x80) :: rest)
      = decodeGo none (Char.ofNat n :: read) rest := by
  have h₁ : (UInt8.ofNat (n / 4096 % 0x10 + 0xE0)).toNat
      = n / 4096 + 0xE0 := by
    rw [UInt8.toNat_ofNat']
    omega
  obtain ⟨low, high, hseq, hfrom, hto⟩ := sequenceOf_three hlow hhigh hs
  rw [decodeGo_first (by omega) (by rw [h₁]; exact hseq), h₁,
    decodeGo_more hfrom hto (by show 1 < 2; omega),
    decodeGo_last (by show 0x80 ≤ _; omega) (by show _ ≤ 0xBF; omega)
      (by show 1 ≤ 1; omega)]
  have hvalue : ((n / 4096 + 0xE0) % (64 >>> 2) * 64 + n / 64 % 64) * 64
      + n % 64 = n := by
    rw [show 64 >>> 2 = 16 from rfl]
    omega
  rw [hvalue]

/-- A character of four bytes. -/
theorem decodeGo_four (hlow : 0x10000 ≤ n) (hhigh : n ≤ 0x10FFFF) :
    decodeGo none read
        (UInt8.ofNat (n / 262144 % 0x08 + 0xF0)
          :: UInt8.ofNat (n / 4096 % 0x40 + 0x80)
          :: UInt8.ofNat (n / 64 % 0x40 + 0x80)
          :: UInt8.ofNat (n % 0x40 + 0x80) :: rest)
      = decodeGo none (Char.ofNat n :: read) rest := by
  have h₁ : (UInt8.ofNat (n / 262144 % 0x08 + 0xF0)).toNat
      = n / 262144 + 0xF0 := by
    rw [UInt8.toNat_ofNat']
    omega
  obtain ⟨low, high, hseq, hfrom, hto⟩ := sequenceOf_four hlow hhigh
  rw [decodeGo_first (by omega) (by rw [h₁]; exact hseq), h₁,
    decodeGo_more hfrom hto (by show 1 < 3; omega),
    decodeGo_more (by show 0x80 ≤ _; omega) (by show _ ≤ 0xBF; omega)
      (by show 1 < 2; omega),
    decodeGo_last (by show 0x80 ≤ _; omega) (by show _ ≤ 0xBF; omega)
      (by show 1 ≤ 1; omega)]
  have hvalue : (((n / 262144 + 0xF0) % (64 >>> 3) * 64
      + n / 4096 % 64) * 64 + n / 64 % 64) * 64 + n % 64 = n := by
    rw [show 64 >>> 3 = 8 from rfl]
    omega
  rw [hvalue]

end

/-- A character is read from its bytes. -/
theorem decodeGo_utf8EncodeChar (c : Char) (read : List Char)
    (rest : List UInt8) :
    decodeGo none read (String.utf8EncodeChar c ++ rest)
      = decodeGo none (c :: read) rest := by
  have hvalid : c.toNat < 0xD800 ∨ 0xDFFF < c.toNat ∧ c.toNat < 0x110000 :=
    c.valid
  unfold String.utf8EncodeChar
  dsimp only
  rw [show c.val.toNat = c.toNat from rfl]
  split
  · next h =>
    have hb : (UInt8.ofNat c.toNat).toNat = c.toNat := by
      rw [UInt8.toNat_ofNat']
      omega
    rw [List.singleton_append, decodeGo, stepByte, startByte, hb,
      if_pos (by omega), Char.ofNat_toNat]
    rfl
  split
  · rw [List.cons_append, List.singleton_append,
      decodeGo_two _ _ (by omega) (by omega), Char.ofNat_toNat]
  split
  · rw [List.cons_append, List.cons_append, List.singleton_append,
      decodeGo_three _ _ (by omega) (by omega) (by omega), Char.ofNat_toNat]
  · rw [List.cons_append, List.cons_append, List.cons_append,
      List.singleton_append, decodeGo_four _ _ (by omega) (by omega),
      Char.ofNat_toNat]

-- ========================================================= whole texts

/-- A packed array is listed from an index on, behind what was listed
before. -/
theorem toList_loop (bytes : ByteArray) (i : Nat) (listed : List UInt8) :
    ByteArray.toList.loop bytes i listed
      = listed.reverse ++ bytes.data.toList.drop i := by
  fun_induction ByteArray.toList.loop bytes i listed with
  | case1 i listed h ih =>
      have hi : i < bytes.data.toList.length := h
      rw [ih, List.drop_eq_getElem_cons hi, List.reverse_cons,
        List.append_assoc]
      simp [ByteArray.get!, h]
  | case2 i listed h =>
      have hi : bytes.data.toList.length ≤ i := Nat.le_of_not_lt h
      rw [List.drop_eq_nil_of_le hi, List.append_nil]

/-- The bytes of a text are those of its characters, one after the
other. -/
theorem toUTF8_ofList (cs : List Char) :
    (String.ofList cs).toUTF8.toList = cs.flatMap String.utf8EncodeChar := by
  rw [String.toUTF8_eq_toByteArray, String.toByteArray_ofList]
  show ByteArray.toList.loop (cs.flatMap String.utf8EncodeChar).toByteArray 0 []
    = _
  rw [toList_loop, List.toList_data_toByteArray]
  rfl

/-- What was read before stands in front of what is read. -/
theorem decodeGo_read (open? : Option Pending) (read : List Char)
    (bytes : List UInt8) :
    decodeGo open? read bytes = read.reverse ++ decodeGo open? [] bytes := by
  induction bytes generalizing open? read with
  | nil => cases open? <;> simp [decodeGo]
  | cons b bytes ih =>
      rw [decodeGo, decodeGo]
      dsimp only
      rw [ih _ (_ ++ read), ih _ (_ ++ []), List.append_nil,
        List.reverse_append, List.append_assoc]

/-- A text is read from the bytes of its characters. -/
theorem ofBytes_utf8 (cs : List Char) :
    ofBytes (cs.flatMap String.utf8EncodeChar) = String.ofList cs := by
  suffices key : ∀ read,
      decodeGo none read (cs.flatMap String.utf8EncodeChar)
        = read.reverse ++ cs by
    rw [ofBytes, key]
    rfl
  induction cs with
  | nil => exact fun read => (List.append_nil _).symm
  | cons c cs ih =>
      intro read
      rw [List.flatMap_cons, decodeGo_utf8EncodeChar, ih, List.reverse_cons,
        List.append_assoc]
      rfl

end FileDepot.Text
